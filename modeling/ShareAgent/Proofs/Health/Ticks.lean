import ShareAgent.Proofs.Health.Delivery

/-! # Many ticks at once

A loop that was not looked at for a while makes its ticks together (`Stream.tickTimes`).  That is the
same as making them one by one (`Stream.tickTimes_eq`): the first one fills the channel, and those
that find it full are only counted.  As long as the loop is alive none is left out
(`Stream.ticks_tickTimes`), and it stays alive if its consumer is there (`Delivery.goes_on`).
-/
namespace ShareAgent.Health

namespace Stream

variable {α : Type} {item : Nat → α} {s : Stream α}

theorem after_ended (he : s.ended) (e : Happening) : (s.after item e).ended := by
  cases e with
  | tick => simp [after, tick_ended, he]
  | receive => exact he
  | drop => exact he

theorem foldl_ended (he : s.ended) (h : List Happening) : (h.foldl (after item) s).ended := by
  induction h generalizing s with
  | nil => exact he
  | cons e h ih => exact ih (after_ended he e)

theorem foldl_closed (hc : s.channel.closed) (h : List Happening) :
    (h.foldl (after item) s).channel.closed := by
  induction h generalizing s with
  | nil => exact hc
  | cons e h ih =>
    refine ih ?_
    rw [after_closed, hc, Bool.true_or]

/-- Ticks after the end of the loop do nothing. -/
theorem foldl_tick_of_ended (he : s.ended) (n : Nat) :
    (List.replicate n .tick).foldl (after item) s = s := by
  induction n with
  | zero => rfl
  | succ n ih =>
    have htick : s.after item .tick = s := by simp [after, tick, he]
    rw [List.replicate_succ, List.foldl_cons, htick, ih]

/-- Ticks that find the channel full are only counted. -/
theorem foldl_tick_of_full (he : s.ended = false) (hc : s.channel.closed = false)
    (hf : s.channel.isFull) (n : Nat) :
    (List.replicate n .tick).foldl (after item) s = { s with ticks := s.ticks + n } := by
  induction n generalizing s with
  | zero => rfl
  | succ n ih =>
    have htick : s.after item .tick = { s with ticks := s.ticks + 1 } := by
      simp [after, tick, Channel.offer, he, hc, hf]
    have hnext := ih (s := { s with ticks := s.ticks + 1 }) he hc hf
    rw [List.replicate_succ, List.foldl_cons, htick, hnext, Nat.add_assoc, Nat.add_comm 1]

/-- **Ticks at once are ticks one by one.** -/
theorem tickTimes_eq (x : α) (n : Nat) (s : Stream α) :
    s.tickTimes x n = (List.replicate n .tick).foldl (after fun _ => x) s := by
  induction n generalizing s with
  | zero => rfl
  | succ n ih =>
    have hended : (s.tick x).ended = (s.ended || s.channel.closed) := s.tick_ended x
    rw [List.replicate_succ, List.foldl_cons, tickTimes]
    show _ = (List.replicate n .tick).foldl (after fun _ => x) (s.tick x)
    split
    · next he => rw [foldl_tick_of_ended he]
    · next he =>
      have he := Bool.eq_false_iff.mpr he
      split
      · next hf =>
        have hc : (s.tick x).channel.closed = false := by
          rw [tick_closed]
          exact (Bool.or_eq_false_iff.mp (hended.symm.trans he)).2
        exact (foldl_tick_of_full he hc hf n).symm
      · exact ih _

/-- As long as the loop is alive, it makes every tick. -/
theorem ticks_tickTimes (x : α) (n : Nat) (s : Stream α)
    (he : (s.tickTimes x n).ended = false) : (s.tickTimes x n).ticks = s.ticks + n := by
  rw [tickTimes_eq] at he ⊢
  induction n generalizing s with
  | zero => rfl
  | succ n ih =>
    rw [List.replicate_succ, List.foldl_cons] at he ⊢
    have hticks : (s.tick x).ended = false → (s.tick x).ticks = s.ticks + 1 := by
      obtain ⟨hended, h⟩ | ⟨-, -, h⟩ | ⟨-, -, -, h⟩ | ⟨-, -, -, h⟩ := s.tick_cases x <;> rw [h]
      · exact fun hfalse => absurd hended (by simp [hfalse])
      all_goals exact fun _ => rfl
    rw [ih _ he]
    show (s.tick x).ticks + n = _
    rw [hticks]
    · omega
    · refine Bool.eq_false_iff.mpr fun hended => ?_
      exact Bool.false_ne_true (he.symm.trans (foldl_ended hended _))

theorem tickTimes_closed (x : α) (n : Nat) (s : Stream α) :
    (s.tickTimes x n).channel.closed = s.channel.closed := by
  rw [tickTimes_eq]
  induction n generalizing s with
  | zero => rfl
  | succ n ih =>
    rw [List.replicate_succ, List.foldl_cons, ih]
    exact s.tick_closed x

/-- After a tick there is no room, unless the loop has ended. -/
theorem isFull_tick {x : α} (hs : s.Narrow) (he : (s.tick x).ended = false) :
    (s.tick x).channel.isFull := by
  obtain ⟨hended, h⟩ | ⟨-, -, h⟩ | ⟨-, -, hfull, h⟩ | ⟨-, -, -, h⟩ := s.tick_cases x
  · rw [h, hended] at he
    cases he
  · rw [h] at he
    cases he
  · rwa [h]
  · rw [h]
    refine decide_eq_true ?_
    rw [hs.capacity, List.length_append]
    exact Nat.le_add_left _ _

theorem isFull_tickTimes {x : α} {n : Nat} (hs : s.Narrow) (hn : 0 < n)
    (he : (s.tickTimes x n).ended = false) : (s.tickTimes x n).channel.isFull := by
  obtain ⟨n, rfl⟩ := Nat.exists_eq_succ_of_ne_zero (Nat.ne_of_gt hn)
  rw [tickTimes] at he ⊢
  split at he
  · next hended => exact absurd hended (Bool.eq_false_iff.mp he)
  · next hended =>
    have hfull := isFull_tick hs (Bool.eq_false_iff.mpr hended)
    rw [if_neg hended, if_pos hfull]
    exact hfull

end Stream

namespace Delivery

variable {α : Type} {item : Nat → α} {h : List Happening}

/-- A loop whose consumer is there goes on. -/
theorem goes_on (hopen : (run item h).stream.channel.closed = false) (n : Nat) :
    (run item (h ++ List.replicate n .tick)).stream.ended = false := by
  refine Bool.eq_false_iff.mpr fun hended => Bool.false_ne_true (hopen.symm.trans ?_)
  obtain ⟨before, later, heq, hdrop⟩ := ended_iff.mp hended
  have hmem : .drop ∈ h ++ List.replicate n Happening.tick := by
    rw [heq]
    exact List.mem_append_left _ hdrop
  refine closed_iff.mpr ((List.mem_append.mp hmem).resolve_right fun hmem => ?_)
  exact Happening.noConfusion (List.eq_of_mem_replicate hmem)

end Delivery

end ShareAgent.Health
