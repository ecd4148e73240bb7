import ShareAgent.Health.Timer

/-! # The timer of a machine

The clock of a machine in memory moves in whole milliseconds. A tick between two of them comes with
the later one. The clock does not reach 2^63 seconds ahead; a period that long becomes thirty
years. This is one timer among many: nothing that is said of watches depends on it. -/
namespace ShareAgent.Machine
open Health

/-- The period that the clock reaches. -/
def reached (period : Span) : Span :=
  if period.nanoseconds < 0x8000000000000000 * 1000000000 then period
  else .ofSeconds (30 * 365 * 24 * 60 * 60)

/-- The first whole millisecond that is not before a time. -/
def nextMillisecond (nanoseconds : Nat) : Nat := (nanoseconds + 999999) / 1000000 * 1000000

theorem reached_pos {period : Span} (h : 0 < period.nanoseconds) :
    0 < (reached period).nanoseconds := by
  rw [reached]
  split
  · exact h
  · decide

/-- A tick has come by a time if it has by the last whole millisecond. -/
theorem lt_count_iff {span elapsed tick : Nat} (h : 0 < span) :
    tick < elapsed / 1000000 * 1000000 / span + 1 ↔ nextMillisecond (tick * span) ≤ elapsed := by
  rw [Nat.lt_succ_iff, Nat.le_div_iff_mul_le h, nextMillisecond]
  omega

/-- The timer of a machine. -/
def timer : Timer where
  time period began tick := began + nextMillisecond (tick * (reached period).nanoseconds)
  count period began now :=
    if now < began then 0
    else (now - began) / 1000000 * 1000000 / (reached period).nanoseconds + 1
  began_le_time _ _ _ := Nat.le_add_right _ _
  lt_count_iff period began now tick h := by
    split
    · omega
    · rw [lt_count_iff (reached_pos h)]
      omega

end ShareAgent.Machine
