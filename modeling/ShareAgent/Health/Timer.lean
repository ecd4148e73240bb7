import ShareAgent.Span

/-! # Timers

A timer ticks again and again, and a loop waits for one tick after the other. Timers come from
outside: all that is known of them here is that they tick by a clock, which counts nanoseconds. How
far apart the ticks are is up to the timer. -/
namespace ShareAgent.Health

/-- A source of ticks. The ticks of a timer are numbered from 0. -/
structure Timer where
  /-- When a tick comes, of a timer that began at a time and has this period. -/
  time : (period : Span) → (began tick : Nat) → Nat
  /-- How many ticks there are up to a time, that time included. -/
  count : (period : Span) → (began now : Nat) → Nat
  /-- No tick comes before the timer has begun. -/
  began_le_time : ∀ period began tick, began ≤ time period began tick
  lt_count_iff : ∀ period began now tick, 0 < period.nanoseconds →
    (tick < count period began now ↔ time period began tick ≤ now)

end ShareAgent.Health
