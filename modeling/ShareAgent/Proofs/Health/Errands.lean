import Mathlib.Data.List.Nodup
import ShareAgent.Health.Watch
import ShareAgent.Proofs.Health.Ticks

/-! # What is asked of a ward

A ward runs the streams of its watchers, and it lets many ticks pass at once.  Still each stream is
as it would be if all that happened had happened one by one (`Mirrors`), so what holds of streams in
every order of events holds of it.  Each errand takes the ward further in this sense (`Advances`),
and so do all of them, one after the other (`Mirrors.course`).

The loop of a watcher who is there goes on, so whoever watches and asks gets the status
(`Mirrors.next_of_present`), and nobody else gets anything.
-/
namespace ShareAgent.Health

namespace Watch

/-- The stream with the ticks up to a time made. -/
def ticked (r : Reporter) (timer : Timer) (time : Nat) (w : Watch) : Stream Serving :=
  w.stream.tickTimes r.status (timer.count r.interval w.began time - w.stream.ticks)

variable {r : Reporter} {timer : Timer} {time : Nat} {w w' : Watch}

theorem update_eq : w.update r timer time =
    if (w.ticked r timer time).ended then none
    else some { w with stream := w.ticked r timer time } :=
  rfl

theorem update_eq_some (h : w.update r timer time = some w') :
    (w.ticked r timer time).ended = false ∧ w' = { w with stream := w.ticked r timer time } := by
  rw [update_eq] at h
  split at h
  · cases h
  · next hended => exact ⟨Bool.eq_false_iff.mpr hended, (Option.some.inj h).symm⟩

theorem update_eq_none (h : w.update r timer time = none) : (w.ticked r timer time).ended := by
  rw [update_eq] at h
  split at h
  · next hended => exact hended
  · cases h

end Watch

/-! ## A ward and its streams -/

namespace Ward

variable {r : Reporter} {w : Ward} {past : Nat → List Happening}

/-- What the watches of a ward are, if each has had this past.  A number without a watch belongs to
a loop that has ended. -/
structure Mirrors (r : Reporter) (past : Nat → List Happening) (w : Ward) : Prop where
  reporter : w.reporter = r
  stream : ∀ watch ∈ w.watches,
    (Delivery.run (fun _ => r.status) (past watch.number)).stream = watch.stream
  numbers : (w.watches.map Watch.number).Nodup
  begun : ∀ watch ∈ w.watches, watch.number < w.begun
  alone : ∀ a ∈ w.watches, ∀ b ∈ w.watches, a.watcher = b.watcher → a.isGone = false →
    b.isGone = false → a.number = b.number
  ended : ∀ i < w.begun, i ∉ w.watches.map Watch.number →
    (Delivery.run (fun _ => r.status) (past i)).stream.ended
  fresh : ∀ i, w.begun ≤ i → past i = []

/-- Each number has at most one watch, so a function of watches is one of their numbers. -/
theorem exists_by_number {ε : Type} (f : Watch → List ε) {watches : List Watch}
    (hnumbers : (watches.map Watch.number).Nodup) :
    ∃ extra : Nat → List ε, (∀ watch ∈ watches, extra watch.number = f watch) ∧
      ∀ i ∉ watches.map Watch.number, extra i = [] := by
  induction watches with
  | nil => exact ⟨fun _ => [], List.forall_mem_nil _, fun _ _ => rfl⟩
  | cons watch watches ih =>
    obtain ⟨hnew, hnumbers⟩ := List.nodup_cons.mp hnumbers
    obtain ⟨extra, hextra, hnone⟩ := ih hnumbers
    refine ⟨fun i => if i = watch.number then f watch else extra i, ?_, ?_⟩
    · refine List.forall_mem_cons.mpr ⟨if_pos rfl, fun other hother => ?_⟩
      have hne : other.number ≠ watch.number := fun heq =>
        hnew (heq ▸ List.mem_map_of_mem hother)
      exact (if_neg hne).trans (hextra other hother)
    · intro i hi
      rw [List.map_cons, List.mem_cons, not_or] at hi
      exact (if_neg hi.1).trans (hnone i hi.2)

/-- What is kept of the watches keeps its number. -/
theorem numbers_sublist {g : Watch → Option Watch} {watches : List Watch}
    (hg : ∀ watch ∈ watches, ∀ watch', g watch = some watch' → watch'.number = watch.number) :
    ((watches.filterMap g).map Watch.number).Sublist (watches.map Watch.number) := by
  induction watches with
  | nil => exact .slnil
  | cons watch watches ih =>
    obtain ⟨hwatch, hrest⟩ := List.forall_mem_cons.mp hg
    have ih := ih hrest
    cases h : g watch with
    | none =>
      rw [List.filterMap_cons_none h]
      exact ih.cons _
    | some watch' =>
      rw [List.filterMap_cons_some h, List.map_cons, List.map_cons, hwatch watch' h]
      exact ih.cons_cons _

/-- Who is there was there before. -/
theorem isGone_before {item : Nat → Serving} {watch watch' : Watch} {h : List Happening}
    (hstream : watch'.stream = h.foldl (Stream.after item) watch.stream)
    (hgone : watch'.isGone = false) : watch.isGone = false := by
  refine Bool.eq_false_iff.mpr fun hclosed => Bool.false_ne_true (hgone.symm.trans ?_)
  rw [Watch.isGone, hstream]
  exact Stream.foldl_closed hclosed h

/-- What becomes of a watch to which this happens: it goes on, unless its loop has ended. -/
structure Becomes (r : Reporter) (watch : Watch) (h : List Happening) (result : Option Watch) :
    Prop where
  goesOn : ∀ watch', result = some watch' → watch'.number = watch.number ∧
    watch'.watcher = watch.watcher ∧
      watch'.stream = h.foldl (Stream.after fun _ => r.status) watch.stream
  ends : result = none → (h.foldl (Stream.after fun _ => r.status) watch.stream).ended

theorem becomes_some {watch watch' : Watch} {h : List Happening}
    (hgoesOn : watch'.number = watch.number ∧ watch'.watcher = watch.watcher ∧
      watch'.stream = h.foldl (Stream.after fun _ => r.status) watch.stream) :
    Becomes r watch h (some watch') := by
  refine ⟨fun other hother => ?_, fun hnone => ?_⟩
  · rwa [← Option.some.inj hother]
  · cases hnone

/-- **Something happens to each watch**: `f` says what, and `g` what becomes of the watch. -/
theorem Mirrors.happen (hm : w.Mirrors r past) (f : Watch → List Happening)
    (g : Watch → Option Watch) (hbecomes : ∀ watch ∈ w.watches, Becomes r watch (f watch) (g watch))
    (time : Nat) :
    ∃ extra : Nat → List Happening, (∀ watch ∈ w.watches, extra watch.number = f watch) ∧
      (∀ i ∉ w.watches.map Watch.number, extra i = []) ∧
      Mirrors r (fun i => past i ++ extra i)
        { w with time := time, watches := w.watches.filterMap g } := by
  obtain ⟨extra, hextra, hother⟩ := exists_by_number f hm.numbers
  have hafter : ∀ watch ∈ w.watches,
      (Delivery.run (fun _ => r.status) (past watch.number ++ extra watch.number)).stream =
        (f watch).foldl (Stream.after fun _ => r.status) watch.stream := by
    intro watch hwatch
    rw [Delivery.run_append, Delivery.foldl_stream, hm.stream watch hwatch, hextra watch hwatch]
  have hsource : ∀ watch' ∈ w.watches.filterMap g, ∃ watch ∈ w.watches,
      watch'.number = watch.number ∧ watch'.watcher = watch.watcher ∧
        watch'.stream = (f watch).foldl (Stream.after fun _ => r.status) watch.stream := by
    intro watch' hwatch'
    obtain ⟨watch, hwatch, hg⟩ := List.mem_filterMap.mp hwatch'
    exact ⟨watch, hwatch, (hbecomes watch hwatch).goesOn watch' hg⟩
  refine ⟨extra, hextra, hother, hm.reporter, ?_, ?_, ?_, ?_, ?_, ?_⟩
  · intro watch' hwatch'
    obtain ⟨watch, hwatch, hnumber, -, hstream⟩ := hsource watch' hwatch'
    rw [hstream, hnumber]
    exact hafter watch hwatch
  · exact hm.numbers.sublist (numbers_sublist fun watch hwatch watch' hg =>
      ((hbecomes watch hwatch).goesOn watch' hg).1)
  · intro watch' hwatch'
    obtain ⟨watch, hwatch, hnumber, -⟩ := hsource watch' hwatch'
    rw [hnumber]
    exact hm.begun watch hwatch
  · intro a' ha' b' hb' hwatcher hagone hbgone
    obtain ⟨a, ha, hanumber, hawatcher, hastream⟩ := hsource a' ha'
    obtain ⟨b, hb, hbnumber, hbwatcher, hbstream⟩ := hsource b' hb'
    rw [hanumber, hbnumber]
    refine hm.alone a ha b hb (by rw [← hawatcher, hwatcher, hbwatcher]) ?_ ?_
    · exact isGone_before hastream hagone
    · exact isGone_before hbstream hbgone
  · intro i hi hgone
    by_cases hmem : i ∈ w.watches.map Watch.number
    · obtain ⟨watch, hwatch, rfl⟩ := List.mem_map.mp hmem
      cases hg : g watch with
      | none =>
        rw [hafter watch hwatch]
        exact (hbecomes watch hwatch).ends hg
      | some watch' =>
        have hnumber := ((hbecomes watch hwatch).goesOn watch' hg).1
        have hwatch' := List.mem_filterMap.mpr ⟨watch, hwatch, hg⟩
        exact absurd (List.mem_map.mpr ⟨watch', hwatch', hnumber⟩) hgone
    · rw [hother i hmem, List.append_nil]
      exact hm.ended i hi hmem
  · intro i hi
    have hnew : i ∉ w.watches.map Watch.number := by
      intro hmem
      obtain ⟨watch, hwatch, rfl⟩ := List.mem_map.mp hmem
      exact absurd (hm.begun watch hwatch) (Nat.not_lt.mpr hi)
    rw [hother i hnew, hm.fresh i hi, List.append_nil]

/-! ## Errands -/

/-- What is asked of a ward. -/
inductive Errand
  | watch (watcher : Nat)
  | next (watcher : Nat)
  | drop (watcher : Nat)
  | sleep (milliseconds : Nat)
  deriving DecidableEq, Repr

/-- What a watcher takes, with the number of his watch. -/
def taken (w : Ward) (watcher : Nat) : List (Nat × Serving) :=
  match w.watchOf? watcher with
  | none => []
  | some watch => (w.take watcher).1.toList.map (Prod.mk watch.number)

/-- Does an errand; answers what is received. -/
def perform (w : Ward) : Errand → List (Nat × Serving) × Ward
  | .watch watcher => ([], w.watch watcher)
  | .next watcher => ((w.await watcher).taken watcher, (w.next watcher).2)
  | .drop watcher => ([], w.drop watcher)
  | .sleep milliseconds => ([], w.sleep milliseconds)

/-- Does some errands; answers all that is received. -/
def course (w : Ward) : List Errand → List (Nat × Serving) × Ward
  | [] => ([], w)
  | e :: es => ((w.perform e).1 ++ ((w.perform e).2.course es).1, ((w.perform e).2.course es).2)

/-- A step of a ward: its watches have a longer past, in which this was received. -/
def Advances (r : Reporter) (past : Nat → List Happening) (received : List (Nat × Serving))
    (w : Ward) : Prop :=
  ∃ extra : Nat → List Happening, Mirrors r (fun i => past i ++ extra i) w ∧
    ∀ i, (Delivery.run (fun _ => r.status) (past i ++ extra i)).received =
      (Delivery.run (fun _ => r.status) (past i)).received ++ own i received

/-- Where nobody asks, nothing is received. -/
theorem Mirrors.advances_quiet (hm : w.Mirrors r past) (f : Watch → List Happening)
    (g : Watch → Option Watch) (hbecomes : ∀ watch ∈ w.watches, Becomes r watch (f watch) (g watch))
    (hquiet : ∀ watch, .receive ∉ f watch) (time : Nat) :
    Advances r past [] { w with time := time, watches := w.watches.filterMap g } := by
  obtain ⟨extra, hextra, hother, hnext⟩ := hm.happen f g hbecomes time
  refine ⟨extra, hnext, fun i => ?_⟩
  have hi : .receive ∉ extra i := by
    by_cases hmem : i ∈ w.watches.map Watch.number
    · obtain ⟨watch, hwatch, rfl⟩ := List.mem_map.mp hmem
      rw [hextra watch hwatch]
      exact hquiet watch
    · rw [hother i hmem]
      exact List.not_mem_nil
  rw [Delivery.run_append, Delivery.received_foldl hi]
  exact (List.append_nil _).symm

theorem Advances.trans {w' : Ward} {received received' : List (Nat × Serving)}
    (h : Advances r past received w)
    (h' : ∀ past, Mirrors r past w → Advances r past received' w') :
    Advances r past (received ++ received') w' := by
  obtain ⟨extra, hm, hreceived⟩ := h
  obtain ⟨extra', hm', hreceived'⟩ := h' _ hm
  refine ⟨fun i => extra i ++ extra' i, ?_, fun i => ?_⟩
  · simpa only [← List.append_assoc] using hm'
  · rw [← List.append_assoc, hreceived', hreceived, own_append, List.append_assoc]

theorem Mirrors.drop (hm : w.Mirrors r past) (watcher : Nat) :
    Advances r past [] (w.drop watcher) := by
  have hquiet := hm.advances_quiet
    (fun watch => if watch.watcher = watcher then [.drop] else [])
    (fun watch => some (if watch.watcher = watcher then { watch with stream := watch.stream.drop }
      else watch)) ?_ ?_ w.time
  · rwa [List.filterMap_eq_map'] at hquiet
  · intro watch _
    refine becomes_some ?_
    split <;> exact ⟨rfl, rfl, rfl⟩
  · intro watch
    split <;> decide

/-- The ticks up to a time. -/
theorem Mirrors.update (hm : w.Mirrors r past) (time now : Nat) :
    Advances r past [] { w.update time with time := now } := by
  refine hm.advances_quiet
    (fun watch => List.replicate
      (w.timer.count w.reporter.interval watch.began time - watch.stream.ticks) .tick)
    (Watch.update w.reporter w.timer time) ?_ ?_ now
  · intro watch _
    rw [← hm.reporter]
    refine ⟨fun watch' hg => ?_, fun hg => ?_⟩
    · obtain ⟨-, rfl⟩ := Watch.update_eq_some hg
      exact ⟨rfl, rfl, Stream.tickTimes_eq _ _ _⟩
    · rw [← Stream.tickTimes_eq]
      exact Watch.update_eq_none hg
  · intro watch hmem
    exact Happening.noConfusion (List.eq_of_mem_replicate hmem)

theorem Mirrors.advances_refl (hm : w.Mirrors r past) : Advances r past [] w := by
  refine ⟨fun _ => [], ?_, fun i => ?_⟩
  · simpa only [List.append_nil] using hm
  · rw [List.append_nil]
    exact (List.append_nil _).symm

theorem Mirrors.sleep (hm : w.Mirrors r past) (milliseconds : Nat) :
    Advances r past [] (w.sleep milliseconds) := by
  rw [Ward.sleep]
  split
  · exact hm.advances_refl
  · exact hm.update _ _

theorem Mirrors.await (hm : w.Mirrors r past) (watcher : Nat) :
    Advances r past [] (w.await watcher) := by
  rw [Ward.await]
  split
  · exact hm.advances_refl
  · split
    · exact hm.update _ _
    · exact hm.advances_refl

theorem isGone_of_mem_drop {watcher : Nat} {a : Watch} (ha : a ∈ (w.drop watcher).watches)
    (hwatcher : a.watcher = watcher) : a.isGone := by
  obtain ⟨watch, -, rfl⟩ := List.mem_map.mp ha
  split
  · rfl
  · next hne =>
    rw [if_neg hne] at hwatcher
    exact (hne hwatcher).elim

/-- A watch begins whose watcher has no other. -/
theorem Mirrors.add (hm : w.Mirrors r past) {watcher : Nat}
    (hgone : ∀ a ∈ w.watches, a.watcher = watcher → a.isGone) :
    Mirrors r past { w with
      begun := w.begun + 1
      watches := w.watches ++ [⟨w.begun, watcher, w.time, .fresh⟩] } := by
  have hnew : w.begun ∉ w.watches.map Watch.number := by
    intro hmem
    obtain ⟨a, ha, heq⟩ := List.mem_map.mp hmem
    exact Nat.ne_of_lt (hm.begun a ha) heq
  refine ⟨hm.reporter, ?_, ?_, ?_, ?_, ?_, ?_⟩
  · refine List.forall_mem_append.mpr ⟨hm.stream, List.forall_mem_singleton.mpr ?_⟩
    rw [hm.fresh w.begun (Nat.le_refl _)]
    rfl
  · rw [List.map_append]
    refine List.nodup_append.mpr ⟨hm.numbers, List.nodup_singleton _, ?_⟩
    intro i hi j hj heq
    have hj : j = w.begun := List.mem_singleton.mp hj
    exact hnew (hj ▸ heq ▸ hi)
  · refine List.forall_mem_append.mpr ⟨fun a ha => ?_, List.forall_mem_singleton.mpr ?_⟩
    · exact Nat.lt_succ_of_lt (hm.begun a ha)
    · exact Nat.lt_succ_self _
  · intro a ha b hb hwatcher hagone hbgone
    obtain ha | ha := List.mem_append.mp ha <;> obtain hb | hb := List.mem_append.mp hb
    · exact hm.alone a ha b hb hwatcher hagone hbgone
    · obtain rfl := List.mem_singleton.mp hb
      exact absurd (hgone a ha hwatcher) (by simp [hagone])
    · obtain rfl := List.mem_singleton.mp ha
      exact absurd (hgone b hb hwatcher.symm) (by simp [hbgone])
    · rw [List.mem_singleton.mp ha, List.mem_singleton.mp hb]
  · intro i hi hmem
    rw [List.map_append, List.mem_append, not_or] at hmem
    have hne : i ≠ w.begun := fun heq => hmem.2 (List.mem_singleton.mpr heq)
    exact hm.ended i (Nat.lt_of_le_of_ne (Nat.le_of_lt_succ hi) hne) hmem.1
  · intro i hi
    exact hm.fresh i (Nat.le_of_succ_le hi)

theorem Mirrors.watch (hm : w.Mirrors r past) (watcher : Nat) :
    Advances r past [] (w.watch watcher) := by
  obtain ⟨extra, hdrop, hreceived⟩ := hm.drop watcher
  exact ⟨extra, hdrop.add fun _ => isGone_of_mem_drop, hreceived⟩

/-- Watchers are told apart by their numbers, and at most one watch of each is alive. -/
theorem Mirrors.watchOf?_eq_some_iff (hm : w.Mirrors r past) {watcher : Nat} {watch : Watch} :
    w.watchOf? watcher = some watch ↔
      watch ∈ w.watches ∧ watch.watcher = watcher ∧ watch.isGone = false := by
  have hfound : ∀ watch, w.watchOf? watcher = some watch →
      watch ∈ w.watches ∧ watch.watcher = watcher ∧ watch.isGone = false := by
    intro watch h
    have hprop := List.find?_some h
    simp only [Bool.and_eq_true, beq_iff_eq, Bool.not_eq_true'] at hprop
    exact ⟨List.mem_of_find?_eq_some h, hprop⟩
  refine ⟨hfound watch, fun ⟨hmem, hwatcher, hgone⟩ => ?_⟩
  cases h : w.watchOf? watcher with
  | none =>
    refine absurd (List.find?_eq_none.mp h watch hmem) ?_
    simp [hwatcher, hgone]
  | some other =>
    obtain ⟨homem, howatcher, hogone⟩ := hfound other h
    have hnumber := hm.alone other homem watch hmem (howatcher.trans hwatcher.symm) hogone hgone
    exact congrArg some (List.inj_on_of_nodup_map hm.numbers homem hmem hnumber)

theorem Mirrors.take (hm : w.Mirrors r past) (watcher : Nat) :
    Advances r past (w.taken watcher) (w.take watcher).2 := by
  -- The question goes to the watches that are there: to one, or to none.
  have hhappen := hm.happen
    (fun watch => if watch.watcher = watcher && ! watch.isGone then [.receive] else [])
    (fun watch => some (if watch.watcher = watcher && ! watch.isGone then
      { watch with stream := watch.stream.receive.2 } else watch)) ?_ w.time
  · rw [List.filterMap_eq_map'] at hhappen
    obtain ⟨extra, hextra, hother, hnext⟩ := hhappen
    have hasks : ∀ watch ∈ w.watches,
        (watch.watcher = watcher && ! watch.isGone) ↔ w.watchOf? watcher = some watch := by
      intro watch hwatch
      rw [hm.watchOf?_eq_some_iff]
      simp [hwatch]
    have hidle : ∀ i, (∀ watch, w.watchOf? watcher = some watch → watch.number ≠ i) →
        extra i = [] := by
      intro i hi
      by_cases hmem : i ∈ w.watches.map Watch.number
      · obtain ⟨watch, hwatch, rfl⟩ := List.mem_map.mp hmem
        rw [hextra watch hwatch, if_neg fun h => hi watch ((hasks watch hwatch).mp h) rfl]
      · exact hother i hmem
    refine ⟨extra, hnext, fun i => ?_⟩
    rw [taken]
    cases hfound : w.watchOf? watcher with
    | none =>
      rw [hidle i (by simp [hfound]), List.append_nil]
      exact (List.append_nil _).symm
    | some watch =>
      have hwatch := (hm.watchOf?_eq_some_iff.mp hfound).1
      show _ = _ ++ own i ((w.take watcher).1.toList.map (Prod.mk watch.number))
      rw [own_numbered]
      by_cases hi : watch.number = i
      · subst hi
        rw [if_pos rfl, hextra watch hwatch, if_pos ((hasks watch hwatch).mpr hfound),
          Delivery.run_concat, Delivery.after, hm.stream watch hwatch, Ward.take, hfound]
        rfl
      · rw [if_neg hi, hidle i (by simp [hfound, hi]), List.append_nil, List.append_nil]
  · intro watch _
    refine becomes_some ?_
    split <;> exact ⟨rfl, rfl, rfl⟩

theorem Mirrors.next (hm : w.Mirrors r past) (watcher : Nat) :
    Advances r past ((w.await watcher).taken watcher) (w.next watcher).2 :=
  (hm.await watcher).trans fun _ hm => hm.take watcher

theorem Mirrors.perform (hm : w.Mirrors r past) (e : Errand) :
    Advances r past (w.perform e).1 (w.perform e).2 := by
  cases e with
  | watch watcher => exact hm.watch watcher
  | next watcher => exact hm.next watcher
  | drop watcher => exact hm.drop watcher
  | sleep milliseconds => exact hm.sleep milliseconds

theorem Mirrors.course (hm : w.Mirrors r past) (es : List Errand) :
    Advances r past (w.course es).1 (w.course es).2 := by
  induction es generalizing w past with
  | nil => exact hm.advances_refl
  | cons e es ih => exact (hm.perform e).trans fun _ hm => ih hm

theorem mirrors_openOn (timer : Timer) (r : Reporter) :
    Mirrors r (fun _ => []) (openOn timer r) :=
  ⟨rfl, List.forall_mem_nil _, List.nodup_nil, List.forall_mem_nil _, List.forall_mem_nil _,
    fun _ hi => absurd hi (Nat.not_lt_zero _), fun _ _ => rfl⟩

/-! ## Who is served -/

/-- The watcher is there. -/
def Present (w : Ward) (watcher : Nat) : Prop :=
  ∃ watch ∈ w.watches, watch.watcher = watcher ∧ watch.isGone = false

/-- A watcher has begun to watch and was not let go since. -/
def Watching (watcher : Nat) (es : List Errand) : Prop :=
  ∃ before later, es = before ++ .watch watcher :: later ∧ .drop watcher ∉ later

variable {watcher other : Nat}

theorem watching_cons {e : Errand} {es : List Errand} : Watching watcher (e :: es) ↔
    Watching watcher es ∨ e = .watch watcher ∧ .drop watcher ∉ es := by
  constructor
  · rintro ⟨before, later, heq, hdrop⟩
    cases before with
    | nil =>
      obtain ⟨rfl, rfl⟩ := List.cons.inj heq
      exact .inr ⟨rfl, hdrop⟩
    | cons _ before => exact .inl ⟨before, later, (List.cons.inj heq).2, hdrop⟩
  · rintro (⟨before, later, rfl, hdrop⟩ | ⟨rfl, hdrop⟩)
    · exact ⟨e :: before, later, rfl, hdrop⟩
    · exact ⟨[], es, rfl, hdrop⟩

theorem present_drop : (w.drop watcher).Present other ↔ w.Present other ∧ other ≠ watcher := by
  constructor
  · rintro ⟨watch', hwatch', rfl, hopen⟩
    refine ⟨?_, fun heq => ?_⟩
    · obtain ⟨watch, hwatch, rfl⟩ := List.mem_map.mp hwatch'
      split at hopen
      · cases hopen
      · next hne =>
        rw [if_neg hne]
        exact ⟨watch, hwatch, rfl, hopen⟩
    · exact absurd (isGone_of_mem_drop hwatch' heq) (Bool.eq_false_iff.mp hopen)
  · rintro ⟨⟨watch, hwatch, rfl, hopen⟩, hne⟩
    refine ⟨_, List.mem_map_of_mem hwatch, ?_⟩
    rw [if_neg hne]
    exact ⟨rfl, hopen⟩

theorem present_watch : (w.watch watcher).Present other ↔ other = watcher ∨ w.Present other := by
  constructor
  · rintro ⟨watch, hwatch, rfl, hopen⟩
    obtain hwatch | hwatch := List.mem_append.mp hwatch
    · exact .inr (present_drop.mp ⟨watch, hwatch, rfl, hopen⟩).1
    · rw [List.mem_singleton.mp hwatch]
      exact .inl rfl
  · intro h
    by_cases heq : other = watcher
    · rw [heq]
      exact ⟨_, List.mem_append_right _ (List.mem_singleton_self _), rfl, rfl⟩
    · obtain ⟨watch, hwatch, hother⟩ := present_drop.mpr ⟨h.resolve_left heq, heq⟩
      exact ⟨watch, List.mem_append_left _ hwatch, hother⟩

/-- Who takes an update stays. -/
theorem present_take : (w.take watcher).2.Present other ↔ w.Present other := by
  have hsame : ∀ watch : Watch,
      let watch' := if watch.watcher = watcher && ! watch.isGone then
        { watch with stream := watch.stream.receive.2 } else watch
      watch'.watcher = watch.watcher ∧ watch'.isGone = watch.isGone := by
    intro watch
    dsimp only
    split
    · exact ⟨rfl, by simp [Watch.isGone, Stream.receive_eq]⟩
    · exact ⟨rfl, rfl⟩
  constructor
  · rintro ⟨watch', hwatch', rfl, hopen⟩
    obtain ⟨watch, hwatch, rfl⟩ := List.mem_map.mp hwatch'
    obtain ⟨hwatcher, hgone⟩ := hsame watch
    exact ⟨watch, hwatch, hwatcher.symm, hgone.symm.trans hopen⟩
  · rintro ⟨watch, hwatch, rfl, hopen⟩
    obtain ⟨hwatcher, hgone⟩ := hsame watch
    exact ⟨_, List.mem_map_of_mem hwatch, hwatcher, hgone.trans hopen⟩

/-- The loop of a watcher who is there makes its ticks and goes on. -/
theorem Mirrors.update_of_open (hm : w.Mirrors r past) {watch : Watch} (hwatch : watch ∈ w.watches)
    (hopen : watch.isGone = false) (time : Nat) :
    watch.update w.reporter w.timer time =
      some { watch with stream := watch.ticked w.reporter w.timer time } := by
  have hstream := hm.stream watch hwatch
  have hended : (watch.ticked w.reporter w.timer time).ended = false := by
    rw [Watch.ticked, Stream.tickTimes_eq, hm.reporter, ← hstream, ← Delivery.foldl_stream,
      ← Delivery.run_append]
    refine Delivery.goes_on ?_ _
    rwa [hstream]
  rw [Watch.update_eq, if_neg (Bool.eq_false_iff.mp hended)]

theorem Mirrors.present_update (hm : w.Mirrors r past) (time now : Nat) :
    Present { w.update time with time := now } watcher ↔ w.Present watcher := by
  constructor
  · rintro ⟨watch', hwatch', rfl, hopen⟩
    obtain ⟨watch, hwatch, hupdate⟩ := List.mem_filterMap.mp hwatch'
    obtain ⟨-, rfl⟩ := Watch.update_eq_some hupdate
    exact ⟨watch, hwatch, rfl, (Stream.tickTimes_closed _ _ _).symm.trans hopen⟩
  · rintro ⟨watch, hwatch, rfl, hopen⟩
    have hupdate := hm.update_of_open hwatch hopen time
    exact ⟨_, List.mem_filterMap.mpr ⟨watch, hwatch, hupdate⟩, rfl,
      (Stream.tickTimes_closed _ _ _).trans hopen⟩

theorem Mirrors.present_await (hm : w.Mirrors r past) :
    (w.await watcher).Present other ↔ w.Present other := by
  rw [Ward.await]
  split
  · exact .rfl
  · split
    · exact hm.present_update _ _
    · exact .rfl

/-- Watchers come and go by their own errands. -/
theorem Mirrors.present_perform (hm : w.Mirrors r past) (e : Errand) :
    (w.perform e).2.Present watcher ↔
      e = .watch watcher ∨ w.Present watcher ∧ e ≠ .drop watcher := by
  cases e with
  | watch other =>
    show (w.watch other).Present watcher ↔ _
    rw [present_watch]
    simp [eq_comm (a := other)]
  | next other =>
    show (w.next other).2.Present watcher ↔ _
    rw [Ward.next, present_take, hm.present_await]
    simp
  | drop other =>
    show (w.drop other).Present watcher ↔ _
    rw [present_drop]
    simp [eq_comm (a := other)]
  | sleep milliseconds =>
    show (w.sleep milliseconds).Present watcher ↔ _
    have hsleep : (w.sleep milliseconds).Present watcher ↔ w.Present watcher := by
      rw [Ward.sleep]
      split
      · exact .rfl
      · exact hm.present_update _ _
    rw [hsleep]
    simp

theorem Mirrors.present_course (hm : w.Mirrors r past) (es : List Errand) :
    (w.course es).2.Present watcher ↔
      Watching watcher es ∨ w.Present watcher ∧ .drop watcher ∉ es := by
  induction es generalizing w past with
  | nil =>
    show w.Present watcher ↔ _
    simp [Watching]
  | cons e es ih =>
    obtain ⟨_, hnext, -⟩ := hm.perform e
    show ((w.perform e).2.course es).2.Present watcher ↔ _
    rw [ih hnext, hm.present_perform, watching_cons, List.mem_cons, not_or, ne_comm]
    tauto

/-- What waits for a watcher is the status. -/
theorem Mirrors.take_of_waiting (hm : w.Mirrors r past) {watch : Watch}
    (hfound : w.watchOf? watcher = some watch) (hitems : watch.stream.channel.items ≠ []) :
    (w.take watcher).1 = some r.status := by
  obtain ⟨status, rest, heq⟩ := List.exists_cons_of_ne_nil hitems
  have hmem : status ∈
      (Delivery.run (fun _ => r.status) (past watch.number)).stream.channel.items := by
    rw [hm.stream watch (hm.watchOf?_eq_some_iff.mp hfound).1, heq]
    exact List.mem_cons_self
  have htake : (w.take watcher).1 = watch.stream.channel.items.head? := by
    rw [Ward.take, hfound, Option.bind_some, Stream.receive_eq]
  obtain ⟨-, rfl⟩ := Delivery.exists_of_mem_items hmem
  rw [htake, heq, List.head?_cons]

/-- **Who watches gets the status** as soon as a tick has come for him. -/
theorem Mirrors.next_of_present (hm : w.Mirrors r past) (hperiod : 0 < r.interval.nanoseconds)
    (hpresent : w.Present watcher) : (w.next watcher).1 = some r.status := by
  obtain ⟨watch, hwatch, hwatcher, hopen⟩ := hpresent
  have hfound := hm.watchOf?_eq_some_iff.mpr ⟨hwatch, hwatcher, hopen⟩
  rw [Ward.next, Ward.await, hfound]
  dsimp only
  split
  · set time := max w.time (w.timer.time w.reporter.interval watch.began watch.stream.ticks)
    obtain ⟨_, hnext, -⟩ := hm.update time time
    have hmem : { watch with stream := watch.ticked w.reporter w.timer time } ∈
        (w.update time).watches :=
      List.mem_filterMap.mpr ⟨watch, hwatch, hm.update_of_open hwatch hopen time⟩
    refine hnext.take_of_waiting (hnext.watchOf?_eq_some_iff.mpr ⟨hmem, hwatcher, ?_⟩) ?_
    · exact (Stream.tickTimes_closed _ _ _).trans hopen
    · -- The tick for which he waits has come by now.
      have hdue : watch.stream.ticks < w.timer.count w.reporter.interval watch.began time :=
        (w.timer.lt_count_iff _ _ _ _ (hm.reporter ▸ hperiod)).mpr (Nat.le_max_right _ _)
      have hnarrow : watch.stream.Narrow := hm.stream watch hwatch ▸ Delivery.narrow_run _ _
      have hnarrow' := hnext.stream _ hmem ▸ Delivery.narrow_run _ _
      obtain ⟨hended, -⟩ := Watch.update_eq_some (hm.update_of_open hwatch hopen time)
      exact hnarrow'.ne_nil_of_isFull
        (Stream.isFull_tickTimes hnarrow (Nat.sub_pos_of_lt hdue) hended)
  · next hitems =>
    exact hm.take_of_waiting hfound fun hempty => hitems (List.isEmpty_iff.mpr hempty)

theorem Mirrors.next_of_not_present (hm : w.Mirrors r past) (habsent : ¬ w.Present watcher) :
    (w.next watcher).1 = none := by
  have hnone : w.watchOf? watcher = none := by
    cases hfound : w.watchOf? watcher with
    | none => rfl
    | some watch => exact (habsent ⟨watch, hm.watchOf?_eq_some_iff.mp hfound⟩).elim
  rw [Ward.next, Ward.await, hnone]
  show (w.take watcher).1 = none
  rw [Ward.take, hnone]
  rfl

end Ward
end ShareAgent.Health
