import ShareAgent.Proofs.Health.Errands

/-! # Watchers and the clock

Whatever is asked of a ward, its watches are streams that take their turns in some order
(`shows_course`), so what holds of streams in every order of events holds of it.

The clock decides the ticks only.  They are those of a timer that comes from outside: each is made
when the timer says, however long the ward waits in between (`Punctual`).  What is expected of a
timer is said by `Timer.Regular`: its first tick comes at once and every other one a period after
the one before.  With such a timer the loops tick once in every period that the reporter hands over,
and that is its interval, but not less than a tenth of a second (`Ward.TicksEvery`).
-/
namespace ShareAgent.Health

/-! ## Timers -/

namespace Timer

variable {timer : Timer} {period : Span}

/-- **Ticks come one period apart**, and the first one comes at once. -/
structure Regular (timer : Timer) (period : Span) : Prop where
  first : ∀ began, timer.time period began 0 = began
  next : ∀ began tick,
    timer.time period began (tick + 1) = timer.time period began tick + period.nanoseconds

theorem Regular.time_eq (h : timer.Regular period) (began tick : Nat) :
    timer.time period began tick = began + tick * period.nanoseconds := by
  induction tick with
  | zero => rw [h.first, Nat.zero_mul, Nat.add_zero]
  | succ tick ih => rw [h.next, ih, Nat.succ_mul, Nat.add_assoc]

end Timer

namespace Reporter

/-- The period of the timers is the interval, but not less than a tenth of a second. -/
theorem interval_make (hasShare : Bool) (interval : Span) :
    (make hasShare interval).interval.nanoseconds = max interval.nanoseconds 100000000 := by
  show (interval.longer shortestWatchInterval).nanoseconds = _
  rw [Span.longer]
  split
  · next h => exact (Nat.max_eq_right (Nat.le_of_lt h)).symm
  · next h => exact (Nat.max_eq_left (Nat.le_of_not_lt h)).symm

theorem interval_make_pos (hasShare : Bool) (interval : Span) :
    0 < (make hasShare interval).interval.nanoseconds := by
  rw [interval_make]
  omega

end Reporter

namespace Ward

variable {r : Reporter} {w : Ward}

/-! ## The clock -/

/-- **Ticks are made when the timer says**: none before, and none is still to be made that came
before now. -/
structure Punctual (timer : Timer) (period : Span) (w : Ward) : Prop where
  timer_eq : w.timer = timer
  period_eq : w.reporter.interval = period
  began : ∀ watch ∈ w.watches, watch.began ≤ w.time
  come : ∀ watch ∈ w.watches, ∀ k < watch.stream.ticks, timer.time period watch.began k ≤ w.time
  made : ∀ watch ∈ w.watches, ∀ k,
    timer.time period watch.began k < w.time → k < watch.stream.ticks

variable {timer : Timer} {period : Span}

/-- What neither ticks nor takes time is punctual. -/
theorem Punctual.map (hw : w.Punctual timer period) {f : Watch → Watch}
    (hf : ∀ watch ∈ w.watches, (f watch).began = watch.began ∧
      (f watch).stream.ticks = watch.stream.ticks) :
    Punctual timer period { w with watches := w.watches.map f } := by
  refine ⟨hw.timer_eq, hw.period_eq, ?_, ?_, ?_⟩
  · intro watch' hwatch'
    obtain ⟨watch, hwatch, rfl⟩ := List.mem_map.mp hwatch'
    rw [(hf watch hwatch).1]
    exact hw.began watch hwatch
  · intro watch' hwatch' k hk
    obtain ⟨watch, hwatch, rfl⟩ := List.mem_map.mp hwatch'
    obtain ⟨hbegan, hticks⟩ := hf watch hwatch
    rw [hbegan]
    exact hw.come watch hwatch k (hticks ▸ hk)
  · intro watch' hwatch' k hk
    obtain ⟨watch, hwatch, rfl⟩ := List.mem_map.mp hwatch'
    obtain ⟨hbegan, hticks⟩ := hf watch hwatch
    rw [hticks]
    exact hw.made watch hwatch k (hbegan ▸ hk)

theorem Punctual.update (hw : w.Punctual timer period) (hperiod : 0 < period.nanoseconds)
    {time now : Nat} (htime : time ≤ now) (hlater : w.time ≤ now) (hnext : now ≤ time + 1) :
    Punctual timer period { w.update time with time := now } := by
  obtain ⟨rfl, rfl, hbefore, hcome, hmade⟩ := hw
  -- After the update the ticks are those of before and those that came up to the time.
  have hticks : ∀ watch' ∈ (w.update time).watches, ∃ watch ∈ w.watches,
      watch'.began = watch.began ∧ ∀ k, k < watch'.stream.ticks ↔ k < watch.stream.ticks ∨
        w.timer.time w.reporter.interval watch.began k ≤ time := by
    intro watch' hwatch'
    obtain ⟨watch, hwatch, hupdate⟩ := List.mem_filterMap.mp hwatch'
    obtain ⟨hended, rfl⟩ := Watch.update_eq_some hupdate
    refine ⟨watch, hwatch, rfl, fun k => ?_⟩
    rw [← w.timer.lt_count_iff _ _ _ _ hperiod]
    show k < (watch.ticked w.reporter w.timer time).ticks ↔ _
    rw [Watch.ticked, Stream.ticks_tickTimes _ _ _ hended]
    omega
  refine ⟨rfl, rfl, ?_, ?_, ?_⟩
  · intro watch' hwatch'
    obtain ⟨watch, hwatch, hbegan, -⟩ := hticks watch' hwatch'
    rw [hbegan]
    exact Nat.le_trans (hbefore watch hwatch) hlater
  · intro watch' hwatch' k hk
    obtain ⟨watch, hwatch, hbegan, hiff⟩ := hticks watch' hwatch'
    rw [hbegan]
    rcases (hiff k).mp hk with hmade | hcame
    · exact Nat.le_trans (hcome watch hwatch k hmade) hlater
    · exact Nat.le_trans hcame htime
  · intro watch' hwatch' k hk
    obtain ⟨watch, hwatch, hbegan, hiff⟩ := hticks watch' hwatch'
    rw [hbegan] at hk
    exact (hiff k).mpr (.inr (Nat.le_of_lt_succ (Nat.lt_of_lt_of_le hk hnext)))

theorem Punctual.drop (hw : w.Punctual timer period) (watcher : Nat) :
    (w.drop watcher).Punctual timer period :=
  hw.map fun watch _ => by split <;> exact ⟨rfl, rfl⟩

theorem Punctual.watch (hw : w.Punctual timer period) (watcher : Nat) :
    (w.watch watcher).Punctual timer period := by
  have hdrop := hw.drop watcher
  refine ⟨hdrop.timer_eq, hdrop.period_eq, ?_, ?_, ?_⟩
  · exact List.forall_mem_append.mpr
      ⟨hdrop.began, List.forall_mem_singleton.mpr (Nat.le_refl _)⟩
  · refine List.forall_mem_append.mpr ⟨hdrop.come, List.forall_mem_singleton.mpr ?_⟩
    exact fun k hk => absurd hk (Nat.not_lt_zero k)
  · refine List.forall_mem_append.mpr ⟨hdrop.made, List.forall_mem_singleton.mpr ?_⟩
    intro k hk
    exact absurd hk (Nat.not_lt.mpr (timer.began_le_time period w.time k))

theorem Punctual.await (hw : w.Punctual timer period) (hperiod : 0 < period.nanoseconds)
    (watcher : Nat) : (w.await watcher).Punctual timer period := by
  rw [Ward.await]
  split
  · exact hw
  · split
    · exact hw.update hperiod (Nat.le_refl _) (Nat.le_max_left _ _) (Nat.le_succ _)
    · exact hw

theorem Punctual.perform (hw : w.Punctual timer period) (hperiod : 0 < period.nanoseconds)
    (e : Errand) : (w.perform e).2.Punctual timer period := by
  cases e with
  | watch watcher => exact hw.watch watcher
  | next watcher =>
    exact (hw.await hperiod watcher).map fun watch _ => by split <;> exact ⟨rfl, rfl⟩
  | drop watcher => exact hw.drop watcher
  | sleep milliseconds =>
    show (w.sleep milliseconds).Punctual timer period
    rw [Ward.sleep]
    split
    · exact hw
    · next hne =>
      have hpos : 0 < (Span.ofMilliseconds milliseconds).nanoseconds :=
        Nat.mul_pos (Nat.pos_of_ne_zero hne) (by decide)
      exact hw.update hperiod (by omega) (by omega) (by omega)

theorem Punctual.course (hw : w.Punctual timer period) (hperiod : 0 < period.nanoseconds)
    (es : List Errand) : (w.course es).2.Punctual timer period := by
  induction es generalizing w with
  | nil => exact hw
  | cons e es ih => exact ih (hw.perform hperiod e)

theorem punctual_openOn (timer : Timer) (r : Reporter) :
    (openOn timer r).Punctual timer r.interval :=
  ⟨rfl, rfl, List.forall_mem_nil _, List.forall_mem_nil _, List.forall_mem_nil _⟩

/-- **The loops tick once in so many nanoseconds**: the first tick of a watch comes when it begins,
and each is made when it comes. -/
def TicksEvery (nanoseconds : Nat) (w : Ward) : Prop :=
  ∀ watch ∈ w.watches, ∀ k,
    (k < watch.stream.ticks → watch.began + k * nanoseconds ≤ w.time) ∧
    (watch.began + k * nanoseconds < w.time → k < watch.stream.ticks)

theorem Punctual.ticksEvery (hw : w.Punctual timer period) (hregular : timer.Regular period) :
    w.TicksEvery period.nanoseconds := by
  intro watch hwatch k
  rw [← hregular.time_eq]
  exact ⟨hw.come watch hwatch k, hw.made watch hwatch k⟩

/-! ## What watchers can rely on -/

/-- The watches of a ward are streams of a hall, and these have brought what was received. -/
structure Shows (hall : Hall Serving) (received : List (Nat × Serving)) (w : Ward) : Prop where
  stream : ∀ watch ∈ w.watches, (hall watch.number).stream = watch.stream
  ended : ∀ i < w.begun, i ∉ w.watches.map Watch.number → (hall i).stream.ended
  received : ∀ i, (hall i).received = own i received

/-- Whoever watches is served, and nobody else. -/
theorem served_course (timer : Timer) (hperiod : 0 < r.interval.nanoseconds) (es : List Errand)
    (watcher : Nat) :
    (Watching watcher es → (((openOn timer r).course es).2.next watcher).1 = some r.status) ∧
    (¬ Watching watcher es → (((openOn timer r).course es).2.next watcher).1 = none) := by
  obtain ⟨extra, hm, -⟩ := (mirrors_openOn timer r).course es
  have hpresent : ((openOn timer r).course es).2.Present watcher ↔ Watching watcher es := by
    rw [(mirrors_openOn timer r).present_course]
    simp [Present, openOn]
  rw [← hpresent]
  exact ⟨hm.next_of_present hperiod, hm.next_of_not_present⟩

theorem shows_course (timer : Timer) (r : Reporter) (es : List Errand) : ∃ events,
    ((openOn timer r).course es).2.Shows (Hall.run (fun _ => r.status) events)
      ((openOn timer r).course es).1 := by
  obtain ⟨extra, hm, hreceived⟩ := (mirrors_openOn timer r).course es
  obtain ⟨events, hevents⟩ := exists_events _ hm.fresh
  refine ⟨events, ?_, ?_, ?_⟩
  · intro watch hwatch
    rw [Hall.run_apply, hevents]
    exact hm.stream watch hwatch
  · intro i hi hmem
    rw [Hall.run_apply, hevents]
    exact hm.ended i hi hmem
  · intro i
    rw [Hall.run_apply, hevents]
    exact hreceived i

/-- **Watchers get the latest status, each by a stream of his own that ends with him.**  This holds
of every order of events on any number of streams, and whatever is asked of a ward, with any timer,
comes to such an order.  Who then asks is served exactly if he watches.  If the ticks of the timer
come one period apart, those of each stream come apart by the interval of the reporter, but not by
less than a tenth of a second. -/
theorem watched_faithfully (hasShare : Bool) (interval : Span) :
    let r := Reporter.make hasShare interval
    (∀ events i,
      Hall.run (fun _ => r.status) events i =
        Delivery.run (fun _ => r.status) (own i events) ∧
      Delivery.Faithful (fun _ => r.status) (own i events)
        (Hall.run (fun _ => r.status) events i) ∧
      ∀ status ∈ (Hall.run (fun _ => r.status) events i).received, status = r.status) ∧
    ∀ timer es,
      (∃ events, ((openOn timer r).course es).2.Shows (Hall.run (fun _ => r.status) events)
        ((openOn timer r).course es).1) ∧
      (∀ watcher,
        (Watching watcher es →
          (((openOn timer r).course es).2.next watcher).1 = some r.status) ∧
        (¬ Watching watcher es → (((openOn timer r).course es).2.next watcher).1 = none)) ∧
      ((openOn timer r).course es).2.Punctual timer r.interval ∧
      (timer.Regular r.interval →
        ((openOn timer r).course es).2.TicksEvery (max interval.nanoseconds 100000000)) := by
  intro r
  refine ⟨fun events i => ?_, fun timer es => ?_⟩
  · have hfaithful := Delivery.faithful_run (fun _ => r.status) (own i events)
    rw [Hall.run_apply]
    refine ⟨rfl, hfaithful, fun status hstatus => ?_⟩
    rw [hfaithful.received] at hstatus
    obtain ⟨_, -, rfl⟩ := List.mem_map.mp hstatus
    rfl
  · have hperiod := Reporter.interval_make_pos hasShare interval
    have hpunctual : ((openOn timer r).course es).2.Punctual timer r.interval :=
      (punctual_openOn timer r).course hperiod es
    refine ⟨shows_course timer r es, served_course timer hperiod es, hpunctual, fun hregular => ?_⟩
    rw [← Reporter.interval_make hasShare interval]
    exact hpunctual.ticksEvery hregular

/-- Two streams: the consumer of one lets an update pass, that of the other goes. -/
def twoStreams : List (Nat × Happening) :=
  [(0, .tick), (1, .drop), (0, .tick), (1, .tick), (0, .receive), (0, .tick), (0, .receive)]

/-- A timer whose clock counts every nanosecond. -/
def exactTimer : Timer where
  time period began tick := began + tick * period.nanoseconds
  count period began now := if now < began then 0 else (now - began) / period.nanoseconds + 1
  began_le_time _ _ _ := Nat.le_add_right _ _
  lt_count_iff period began now tick h := by
    split
    · omega
    · rw [Nat.lt_succ_iff, Nat.le_div_iff_mul_le h]
      omega

theorem exactTimer_regular (period : Span) : exactTimer.Regular period := by
  refine ⟨fun began => ?_, fun began tick => ?_⟩
  · show began + 0 * period.nanoseconds = began
    rw [Nat.zero_mul, Nat.add_zero]
  · show began + (tick + 1) * period.nanoseconds =
      began + tick * period.nanoseconds + period.nanoseconds
    rw [Nat.succ_mul, Nat.add_assoc]

/-- The update of the second tick is lost, and the other loop ends.  A watch ticks once in a tenth
of a second, though nobody asks and the interval is shorter, and its watcher is served. -/
theorem watched_faithfully_twoStreams :
    Delivery.numbers (own 0 twoStreams) = [0, 2] ∧
    1 ∉ Delivery.numbers (own 0 twoStreams) ∧
    (Hall.run (fun _ => Serving.serving) twoStreams 1).stream.ended ∧
    (((openOn exactTimer (.make true (.ofMilliseconds 1))).course
      [.watch 0, .sleep 250]).2.next 0).1 = some .serving ∧
    exactTimer.Regular (Reporter.make true (.ofMilliseconds 1)).interval ∧
    ∀ watch ∈ ((openOn exactTimer (.make true (.ofMilliseconds 1))).course
      [.watch 0, .sleep 250]).2.watches, 2 < watch.stream.ticks ∧ ¬ 3 < watch.stream.ticks := by
  obtain ⟨hstreams, hcourses⟩ := watched_faithfully true (.ofMilliseconds 1)
  have hregular := exactTimer_regular (Reporter.make true (.ofMilliseconds 1)).interval
  refine ⟨by decide, ?_, ?_, ?_, hregular, ?_⟩
  · exact (hstreams twoStreams 0).2.1.lost [.tick] [.receive, .tick, .receive] rfl rfl
  · exact (hstreams twoStreams 1).2.1.ended.mpr ⟨[.drop], [], rfl, by decide⟩
  · have hserved := (hcourses exactTimer [.watch 0, .sleep 250]).2.1 0
    exact hserved.1 ⟨[], [.sleep 250], rfl, by decide⟩
  · intro watch hwatch
    have hbegan : watch.began = 0 := by
      revert watch
      decide
    have hevery := (hcourses exactTimer [.watch 0, .sleep 250]).2.2.2 hregular watch hwatch
    rw [hbegan] at hevery
    refine ⟨(hevery 2).2 (by decide), fun hthird => absurd ((hevery 3).1 hthird) (by decide)⟩

end Ward
end ShareAgent.Health
