import ShareAgent.Proofs.Share.Life

/-! # How often an unmount is tried

An attempt to unmount a path first asks whether anything is mounted on it, and asks the host to
unmount only if there is (`Attempt`).  A host answers the first attempt somehow, the second one
somehow, and so on: it is any sequence of attempts.  The agent makes them one by one, with a pause
between two, until one of them does not find the volume busy or there were as many as the settings
allow, but at least one (`Settles`).

The number of attempts is a function of the host (`Settles.unique`), and every course of an
unmount that withdrew the export is the course of these attempts (`retried_while_busy`).  What the
caller learns is the outcome of the last attempt.  A counter of 32 bits that fails where it would
overflow counts the attempts without ever failing (`unmountCounting_eq`).
-/
namespace ShareAgent

/-- What one attempt to unmount a path finds and does. -/
inductive Attempt
  /-- The host could not say whether anything is mounted. -/
  | unknown (e : HostError)
  /-- Nothing is mounted. -/
  | clear
  /-- Something is mounted, and the host was asked to unmount it. -/
  | tried (answer : Except HostError Unit)

namespace Attempt

/-- The steps of an attempt. -/
def exchanges (path : Path) : Attempt → List HostExchange
  | unknown e => [⟨.isMountPoint path, .error e⟩]
  | clear => [⟨.isMountPoint path, .ok false⟩]
  | tried answer => [⟨.isMountPoint path, .ok true⟩, ⟨.unmount path, answer⟩]

/-- What comes of an attempt. -/
def outcome : Attempt → Except HostError Unit
  | unknown e => .error e
  | clear => .ok ()
  | tried answer => answer

/-- The attempt failed since the volume is busy. -/
def isBusy (a : Attempt) : Bool :=
  match a.outcome with
  | .error e => e.isBusy
  | .ok _ => false

/-- The attempt got so far as to ask for an unmount. -/
def unmounts : Attempt → Bool
  | tried _ => true
  | _ => false

/-- The steps of some attempts and of the last one, with a pause between two. -/
def course (path : Path) (interval : Span) : List Attempt → Attempt → List HostExchange
  | [], last => last.exchanges path
  | a :: before, last =>
    a.exchanges path ++ ⟨.pause interval, ()⟩ :: course path interval before last

/-- `Series retries before last`: attempts that follow each other until one does not find the volume
busy, or until there were as many retries. -/
inductive Series : Nat → List Attempt → Attempt → Prop
  | settled {retries : Nat} {last : Attempt} (hlast : ¬ last.isBusy) : Series retries [] last
  | exhausted {last : Attempt} : Series 0 [] last
  | retried {retries : Nat} {a last : Attempt} {before : List Attempt} (ha : a.isBusy)
      (h : Series retries before last) : Series (retries + 1) (a :: before) last

/-- `Settles n host k`: of a host that answers attempts in this way, of which `n` are allowed, the
`k`-th attempt is the last. -/
structure Settles (n : Nat) (host : Nat → Attempt) (k : Nat) : Prop where
  pos : 1 ≤ k
  le : k ≤ n
  /-- All attempts before it found the volume busy. -/
  busy : ∀ j, 1 ≤ j → j < k → (host j).isBusy
  /-- If it found the volume busy too, no further attempt is allowed. -/
  exhausted : (host k).isBusy → k = n

variable {path : Path} {interval : Span} {host : Nat → Attempt} {n k k' : Nat}

theorem exists_settles (hn : 1 ≤ n) (host : Nat → Attempt) : ∃ k, Settles n host k := by
  induction hn with
  | refl => exact ⟨1, Nat.le_refl 1, Nat.le_refl 1, fun j hj hlt => by omega, fun _ => rfl⟩
  | step hn ih =>
    obtain ⟨k, hk⟩ := ih
    by_cases hbusy : (host k).isBusy
    · obtain rfl := hk.exhausted hbusy
      refine ⟨k + 1, Nat.le_add_left 1 k, Nat.le_refl _, fun j hj hlt => ?_, fun _ => rfl⟩
      rcases Nat.lt_succ_iff_lt_or_eq.mp hlt with hlt | rfl
      · exact hk.busy j hj hlt
      · exact hbusy
    · exact ⟨k, hk.pos, Nat.le_succ_of_le hk.le, hk.busy, fun h => absurd h hbusy⟩

/-- No attempt is the last before another one. -/
theorem Settles.le_of (h : Settles n host k) (h' : Settles n host k') : k ≤ k' := by
  refine Nat.le_of_not_lt fun hlt => ?_
  have hn := h'.exhausted (h.busy k' h'.pos hlt)
  have := h.le
  omega

theorem Settles.unique (h : Settles n host k) (h' : Settles n host k') : k = k' :=
  Nat.le_antisymm (h.le_of h') (h'.le_of h)

theorem series_iff {retries : Nat} {before : List Attempt} {last : Attempt} :
    Series retries before last ↔ (∀ a ∈ before, a.isBusy) ∧ before.length ≤ retries ∧
      (last.isBusy → before.length = retries) := by
  constructor
  · intro h
    induction h with
    | settled hlast => exact ⟨List.forall_mem_nil _, Nat.zero_le _, fun h => absurd h hlast⟩
    | exhausted => exact ⟨List.forall_mem_nil _, Nat.le_refl 0, fun _ => rfl⟩
    | retried ha _ ih =>
      obtain ⟨hbusy, hle, hlast⟩ := ih
      exact ⟨List.forall_mem_cons.mpr ⟨ha, hbusy⟩, Nat.succ_le_succ hle,
        fun h => congrArg Nat.succ (hlast h)⟩
  · intro h
    obtain ⟨hbusy, hle, hlast⟩ := h
    induction before generalizing retries with
    | nil =>
      by_cases h : last.isBusy
      · rw [← hlast h]
        exact .exhausted
      · exact .settled h
    | cons a before ih =>
      obtain ⟨ha, hbusy⟩ := List.forall_mem_cons.mp hbusy
      obtain ⟨others, rfl⟩ : ∃ others, retries = others + 1 := ⟨retries - 1, by simp at hle; omega⟩
      exact .retried ha (ih hbusy (Nat.le_of_succ_le_succ hle) fun h => Nat.succ.inj (hlast h))

/-- The attempts of a host up to the last one are a series. -/
theorem settles_succ_iff (hn : 1 ≤ n) : Settles n host (k + 1) ↔
    Series (n - 1) ((List.range' 1 k).map host) (host (k + 1)) := by
  have hmem : ∀ j, j ∈ List.range' 1 k ↔ 1 ≤ j ∧ j < k + 1 := fun j => by
    rw [List.mem_range'_1]
    omega
  rw [series_iff, List.length_map, List.length_range']
  constructor
  · intro h
    have hle := h.le
    refine ⟨?_, by omega, fun hbusy => by have := h.exhausted hbusy; omega⟩
    intro a ha
    obtain ⟨j, hj, rfl⟩ := List.mem_map.mp ha
    obtain ⟨hpos, hlt⟩ := (hmem j).mp hj
    exact h.busy j hpos hlt
  · intro h
    obtain ⟨hbusy, hle, hlast⟩ := h
    refine ⟨Nat.le_add_left 1 k, by omega, ?_, fun h => by have := hlast h; omega⟩
    intro j hpos hlt
    exact hbusy _ (List.mem_map.mpr ⟨j, (hmem j).mpr ⟨hpos, hlt⟩, rfl⟩)

/-- Every series is that of some host. -/
theorem exists_host (before : List Attempt) (last : Attempt) : ∃ host : Nat → Attempt,
    (List.range' 1 before.length).map host = before ∧ host (before.length + 1) = last := by
  refine ⟨fun j => before.getD (j - 1) last, ?_, by simp⟩
  refine List.ext_getElem (by simp) fun j hj hj' => ?_
  simp [hj']

/-! ## The questions of a course -/

/-- What a course asks. -/
def questions (path : Path) (interval : Span) (before : List Attempt) (last : Attempt) :
    List HostCall :=
  (course path interval before last).map Exchange.question

theorem questions_cons (a : Attempt) (before : List Attempt) (last : Attempt) :
    questions path interval (a :: before) last =
      (a.exchanges path).map Exchange.question ++
        .pause interval :: questions path interval before last := by
  simp [questions, course]

/-- Each attempt looks once. -/
theorem count_isMountPoint (before : List Attempt) (last : Attempt) :
    (questions path interval before last).count (.isMountPoint path) = before.length + 1 := by
  have hone : ∀ a : Attempt,
      ((a.exchanges path).map Exchange.question).count (.isMountPoint path) = 1 := by
    rintro (_ | _ | _) <;> simp [exchanges]
  induction before with
  | nil => exact hone last
  | cons a before ih =>
    rw [questions_cons, List.count_append, hone, List.count_cons_of_ne (by simp), ih,
      List.length_cons]
    omega

/-- There is a pause between two attempts. -/
theorem count_pause (before : List Attempt) (last : Attempt) :
    (questions path interval before last).count (.pause interval) = before.length := by
  have hnone : ∀ a : Attempt,
      ((a.exchanges path).map Exchange.question).count (.pause interval) = 0 := by
    rintro (_ | _ | _) <;> simp [exchanges]
  induction before with
  | nil => exact hnone last
  | cons a before ih =>
    rw [questions_cons, List.count_append, hnone, List.count_cons_self, ih, List.length_cons,
      Nat.zero_add]

/-- The host is asked to unmount in those attempts that found something mounted. -/
theorem count_unmount (before : List Attempt) (last : Attempt) :
    (questions path interval before last).count (.unmount path) =
      (before ++ [last]).countP unmounts := by
  have hone : ∀ a : Attempt,
      ((a.exchanges path).map Exchange.question).count (.unmount path) = [a].countP unmounts := by
    rintro (_ | _ | _) <;> simp [exchanges, unmounts]
  induction before with
  | nil => exact hone last
  | cons a before ih =>
    rw [questions_cons, List.count_append, hone, List.count_cons_of_ne (by simp), ih,
      ← List.countP_append]
    rfl

end Attempt

namespace Share
open Dialogue Attempt

variable {s : Share} {path : Path} {interval : Span} {exchanges : List HostExchange}
  {r : Except HostError Unit} {state : ShareState}

/-! ## The loop -/

/-- One attempt, whatever the host answers. -/
theorem unmountOnce_leads : (unmountOnce path).Leads exchanges (.done r) ↔
    ∃ a : Attempt, exchanges = a.exchanges path ∧ r = a.outcome := by
  constructor
  · rintro (_ | ⟨e | _ | _, h⟩)
    · obtain ⟨rfl, rfl⟩ := leads_done.mp h
      exact ⟨.unknown e, rfl, rfl⟩
    · obtain ⟨rfl, rfl⟩ := leads_done.mp h
      exact ⟨.clear, rfl, rfl⟩
    · obtain rfl := leads_put.mp h
      exact ⟨.tried r, rfl, rfl⟩
  · rintro ⟨_ | _ | _, rfl, rfl⟩
    · exact leads_ask.mpr (.here _)
    · exact leads_ask.mpr (.here _)
    · exact leads_ask.mpr (leads_ask.mpr (.here _))

/-- Another attempt is made exactly after one that found the volume busy. -/
theorem unmountRetrying_succ_leads {retries : Nat} {a : Attempt} :
    (unmountRetrying path interval (retries + 1)).Leads (a.exchanges path ++ exchanges) (.done r) ↔
      if a.isBusy then ∃ rest, exchanges = ⟨.pause interval, ()⟩ :: rest ∧
        (unmountRetrying path interval retries).Leads rest (.done r)
      else exchanges = [] ∧ r = a.outcome := by
  have hfirst : (unmountOnce path).Leads (a.exchanges path) (.done a.outcome) :=
    unmountOnce_leads.mpr ⟨a, rfl, rfl⟩
  rw [unmountRetrying, leads_bind_append hfirst]
  cases houtcome : a.outcome with
  | ok => simp [Attempt.isBusy, houtcome]
  | error e =>
    simp only [Attempt.isBusy, houtcome]
    cases e.isBusy with
    | false => simp
    | true =>
      simp only [if_true]
      constructor
      · rintro (_ | ⟨⟨⟩, h⟩)
        exact ⟨_, rfl, h⟩
      · rintro ⟨rest, rfl, h⟩
        exact leads_ask.mpr h

/-- **Every course of the loop** is that of a series of attempts. -/
theorem unmountRetrying_leads {retries : Nat} :
    (unmountRetrying path interval retries).Leads exchanges (.done r) ↔ ∃ before last,
      Series retries before last ∧ exchanges = course path interval before last ∧
        r = last.outcome := by
  induction retries generalizing exchanges with
  | zero =>
    rw [unmountRetrying, unmountOnce_leads]
    constructor
    · intro h
      obtain ⟨last, hcourse, hr⟩ := h
      exact ⟨[], last, .exhausted, hcourse, hr⟩
    · intro h
      obtain ⟨before, last, hseries, hcourse, hr⟩ := h
      cases hseries with
      | settled | exhausted => exact ⟨last, hcourse, hr⟩
  | succ retries ih =>
    constructor
    · intro h
      obtain ⟨first, rest, _, rfl, hfirst, -⟩ := leads_bind.mp h
      obtain ⟨a, rfl, -⟩ := unmountOnce_leads.mp hfirst
      rw [unmountRetrying_succ_leads] at h
      by_cases hbusy : a.isBusy
      · rw [if_pos hbusy] at h
        obtain ⟨rest, rfl, h⟩ := h
        obtain ⟨before, last, hseries, rfl, hr⟩ := ih.mp h
        exact ⟨a :: before, last, .retried hbusy hseries, rfl, hr⟩
      · rw [if_neg hbusy] at h
        obtain ⟨rfl, hr⟩ := h
        exact ⟨[], a, .settled hbusy, List.append_nil _, hr⟩
    · intro h
      obtain ⟨before, last, hseries, rfl, hr⟩ := h
      cases hseries with
      | settled hlast =>
        rw [course, ← List.append_nil (last.exchanges path), unmountRetrying_succ_leads,
          if_neg hlast]
        exact ⟨rfl, hr⟩
      | retried ha hrest =>
        rw [course, unmountRetrying_succ_leads, if_pos ha]
        exact ⟨_, rfl, ih.mpr ⟨_, last, hrest, rfl, hr⟩⟩

/-- A number below another one of 32 bits has a successor. -/
theorem toNat_succ_of_lt {attempts attempt : UInt32} (h : attempt < attempts) :
    (attempt + 1).toNat = attempt.toNat + 1 := by
  have hlt := UInt32.lt_iff_toNat_lt.mp h
  rw [UInt32.toNat_add, UInt32.toNat_one]
  exact Nat.mod_eq_of_lt (Nat.lt_of_le_of_lt hlt attempts.toNat_lt)

/-- The loop with a counter of 32 bits: `attempt` is the number of the current attempt, of
`attempts`.  It gives nothing if the counter overflows. -/
def unmountCounting (path : Path) (interval : Span) (attempts attempt : UInt32) :
    OnHost (Option (Except HostError Unit)) :=
  (unmountOnce path).bind fun
    | .ok () => .done (some (.ok ()))
    | .error e =>
      if h : e.isBusy ∧ attempt < attempts then
        .ask (.pause interval) fun _ =>
          if attempt.toNat + 1 < UInt32.size then
            unmountCounting path interval attempts (attempt + 1)
          else .done none
      else .done (some (.error e))
termination_by attempts.toNat - attempt.toNat
decreasing_by
  have hlt := UInt32.lt_iff_toNat_lt.mp h.2
  rw [toNat_succ_of_lt h.2]
  omega

/-- **The counter never overflows**, since it never exceeds the number that it is compared with. -/
theorem unmountCounting_eq {attempts attempt : UInt32} (h : attempt ≤ attempts) :
    unmountCounting path interval attempts attempt =
      (unmountRetrying path interval (attempts.toNat - attempt.toNat)).bind
        fun r => .done (some r) := by
  generalize hleft : attempts.toNat - attempt.toNat = left
  have hle := UInt32.le_iff_toNat_le.mp h
  induction left generalizing attempt with
  | zero =>
    have hlt : ¬ attempt < attempts := by
      rw [UInt32.lt_iff_toNat_lt]
      omega
    rw [unmountCounting, unmountRetrying]
    refine congrArg _ (funext fun r => ?_)
    rcases r with e | ⟨⟩
    · exact dif_neg fun hand => hlt hand.2
    · rfl
  | succ left ih =>
    have hsize := attempts.toNat_lt
    have hlt : attempt < attempts := by
      rw [UInt32.lt_iff_toNat_lt]
      omega
    have hsucc := toNat_succ_of_lt hlt
    have hnext : attempt + 1 ≤ attempts := by
      rw [UInt32.le_iff_toNat_le, hsucc]
      omega
    rw [unmountCounting, unmountRetrying, bind_assoc]
    refine congrArg _ (funext fun r => ?_)
    rcases r with e | ⟨⟩
    · by_cases hbusy : e.isBusy
      · have hroom : attempt.toNat + 1 < UInt32.size := by
          show _ < 4294967296
          omega
        simp only [hbusy, hlt, hroom, and_self, dite_true, if_true]
        refine congrArg _ (funext fun _ => ih hnext ?_ ?_) <;> omega
      · simp only [hbusy]
        rfl
    · rfl

/-! ## The operation -/

/-- The course of an unmount up to the first attempt, on a host where the server runs and drops the
export. -/
def withdrawn (s : Share) : List HostExchange :=
  [⟨.serverRunning, true⟩, ⟨.deleteExport s.volume.name, .ok ()⟩, ⟨.reload, .ok ()⟩]

/-- The course of the attempts up to the `k`-th one. -/
def attempted (s : Share) (host : Nat → Attempt) (k : Nat) : List HostExchange :=
  course s.mountPath s.settings.unmountRetryInterval ((List.range' 1 (k - 1)).map host) (host k)

/-- What the caller learns after the last attempt. -/
def verdict (s : Share) (last : Attempt) : Except ShareError Unit :=
  last.outcome.mapError (failed ("failed to unmount " ++ s.mountPath.text))

theorem verdict_eq_ok {last : Attempt} :
    s.verdict last = .ok () ↔ last = .clear ∨ last = .tried (.ok ()) := by
  constructor
  · intro h
    rcases last with e | _ | e | ⟨⟩
    · cases h
    · exact .inl rfl
    · cases h
    · exact .inr rfl
  · intro h
    rcases h with rfl | rfl
    · rfl
    · rfl

theorem verdict_eq_error {last : Attempt} {e : HostError} (h : last.outcome = .error e) :
    s.verdict last =
      .error (.internal ("failed to unmount " ++ s.mountPath.text) e.message) := by
  rw [verdict, h]
  rfl

/-- After the export is withdrawn, an unmount is its loop. -/
theorem perform_unmount_leads (hbound : state ≠ .unbound) {result : Except ShareError Unit}
    {state' : ShareState} :
    (s.perform .unmount state).Leads (s.withdrawn ++ exchanges) (.done (result, state')) ↔
      ∃ r, (unmountRetrying s.mountPath s.settings.unmountRetryInterval
          (s.settings.unmountRetries - 1)).Leads exchanges (.done r) ∧
        result = r.mapError (failed ("failed to unmount " ++ s.mountPath.text)) ∧
        state' = .unmounted := by
  rw [perform_unmount hbound, withdrawn, List.cons_append, leads_ask, if_pos rfl]
  refine leads_map.trans ?_
  constructor
  · rintro ⟨answer, h, hdone⟩
    obtain ⟨rfl, rfl⟩ := Prod.mk.inj hdone
    obtain ⟨r, hr, rfl⟩ := leads_map.mp (leads_ask.mp (leads_ask.mp h))
    exact ⟨r, hr, rfl, rfl⟩
  · rintro ⟨r, hr, rfl, rfl⟩
    exact ⟨_, leads_ask.mpr (leads_ask.mpr (leads_map.mpr ⟨r, hr, rfl⟩)), rfl⟩

/-- The number of attempts that the settings allow. -/
def allowedAttempts (s : Share) : Nat := max 1 s.settings.unmountRetries

/-- **The courses of an unmount that withdrew the export** are those of its attempts. -/
theorem attempts_of_leads (hbound : state ≠ .unbound) {result : Except ShareError Unit}
    {state' : ShareState} :
    (s.perform .unmount state).Leads (s.withdrawn ++ exchanges) (.done (result, state')) ↔
      ∃ host k, Settles s.allowedAttempts host k ∧ exchanges = s.attempted host k ∧
        result = s.verdict (host k) ∧ state' = .unmounted := by
  have hpos : 1 ≤ s.allowedAttempts := Nat.le_max_left 1 _
  have hretries : s.allowedAttempts - 1 = s.settings.unmountRetries - 1 := by
    rw [allowedAttempts]
    omega
  rw [perform_unmount_leads hbound, ← hretries]
  constructor
  · intro h
    obtain ⟨r, hlead, rfl, rfl⟩ := h
    obtain ⟨before, last, hseries, rfl, rfl⟩ := unmountRetrying_leads.mp hlead
    obtain ⟨host, hbefore, rfl⟩ := exists_host before last
    refine ⟨host, before.length + 1, (settles_succ_iff hpos).mpr ?_, ?_, rfl, rfl⟩
    · rwa [hbefore]
    · rw [attempted, Nat.add_sub_cancel, hbefore]
  · intro h
    obtain ⟨host, k, hk, rfl, rfl, rfl⟩ := h
    obtain ⟨k, rfl⟩ : ∃ j, k = j + 1 := ⟨k - 1, (Nat.sub_add_cancel hk.pos).symm⟩
    have hseries := (settles_succ_iff hpos).mp hk
    exact ⟨_, unmountRetrying_leads.mpr ⟨_, _, hseries, rfl, rfl⟩, rfl, rfl⟩

/-- Up to its `k`-th attempt a host is asked `k` times what is mounted, with a pause between two
attempts. -/
theorem count_attempted {host : Nat → Attempt} {k : Nat} (hk : 1 ≤ k) :
    ((s.attempted host k).map Exchange.question).count (.isMountPoint s.mountPath) = k ∧
    ((s.attempted host k).map Exchange.question).count
      (.pause s.settings.unmountRetryInterval) = k - 1 ∧
    ((s.attempted host k).map Exchange.question).count (.unmount s.mountPath) =
      ((List.range' 1 k).map host).countP unmounts := by
  obtain ⟨k, rfl⟩ : ∃ j, k = j + 1 := ⟨k - 1, (Nat.sub_add_cancel hk).symm⟩
  have hlength : ((List.range' 1 k).map host).length = k := by simp
  have hall : (List.range' 1 k).map host ++ [host (k + 1)] =
      (List.range' 1 (k + 1)).map host := by
    rw [List.range'_1_concat, List.map_append, Nat.add_comm 1 k]
    rfl
  refine ⟨?_, ?_, ?_⟩
  · exact (count_isMountPoint _ _).trans (congrArg Nat.succ hlength)
  · exact (count_pause _ _).trans hlength
  · exact (count_unmount _ _).trans (congrArg (List.countP unmounts) hall)

theorem toNat_max_one (c : UInt32) :
    1 ≤ max 1 c ∧ (max 1 c).toNat - 1 = c.toNat - 1 := by
  show 1 ≤ (if 1 ≤ c then c else 1) ∧ (if 1 ≤ c then c else 1).toNat - 1 = _
  by_cases h : 1 ≤ c
  · rw [if_pos h]
    exact ⟨h, rfl⟩
  · have hzero : c.toNat < 1 := Nat.lt_of_not_le fun hle => h (UInt32.le_iff_toNat_le.mpr hle)
    rw [if_neg h, Nat.sub_eq_zero_of_le (Nat.le_of_lt hzero)]
    exact ⟨UInt32.le_refl 1, rfl⟩

/-- **An unmount is tried again exactly while the volume is busy.**  The server runs and has dropped
the export; `host` says how the host answers the first attempt, the second one, and so on.  Then the
number of the last attempt is known: it is the first one that does not find the volume busy, or the
last that the settings allow, of which there is at least one.  The courses of the unmount are just
these attempts, each of which looks before it unmounts, with the pause of the settings between two;
what the caller learns is the outcome of the last attempt, whatever the others were.  A counter of
32 bits counts the attempts without overflow. -/
theorem retried_while_busy (hbound : state ≠ .unbound) :
    (∀ host, ∃ k, Settles s.allowedAttempts host k ∧
      ∀ k', Settles s.allowedAttempts host k' → k' = k) ∧
    (∀ exchanges result state',
      (s.perform .unmount state).Leads (s.withdrawn ++ exchanges) (.done (result, state')) ↔
        ∃ host k, Settles s.allowedAttempts host k ∧ exchanges = s.attempted host k ∧
          result = s.verdict (host k) ∧ state' = .unmounted) ∧
    (∀ host k, 1 ≤ k →
      ((s.attempted host k).map Exchange.question).count (.isMountPoint s.mountPath) = k ∧
      ((s.attempted host k).map Exchange.question).count
        (.pause s.settings.unmountRetryInterval) = k - 1 ∧
      ((s.attempted host k).map Exchange.question).count (.unmount s.mountPath) =
        ((List.range' 1 k).map host).countP unmounts) ∧
    (∀ last, s.verdict last = .ok () ↔ last = .clear ∨ last = .tried (.ok ())) ∧
    (∀ last e, last.outcome = .error e → s.verdict last =
      .error (.internal ("failed to unmount " ++ s.mountPath.text) e.message)) ∧
    (∀ c : UInt32, s.settings.unmountRetries = c.toNat →
      unmountCounting s.mountPath s.settings.unmountRetryInterval (max 1 c) 1 =
        (unmountRetrying s.mountPath s.settings.unmountRetryInterval
          (s.settings.unmountRetries - 1)).bind fun r => .done (some r)) := by
  refine ⟨?_, fun _ _ _ => attempts_of_leads hbound, fun _ _ => count_attempted,
    fun _ => verdict_eq_ok, fun _ _ => verdict_eq_error, ?_⟩
  · intro host
    obtain ⟨k, hsettles⟩ := exists_settles (Nat.le_max_left 1 s.settings.unmountRetries) host
    exact ⟨k, hsettles, fun _ h => h.unique hsettles⟩
  · intro c hc
    obtain ⟨hle, hretries⟩ := toNat_max_one c
    rw [unmountCounting_eq hle, hc, ← hretries]
    rfl

/-- A host on which the volume is busy twice, and then is unmounted. -/
def busyTwice (j : Nat) : Attempt :=
  .tried (if j ≤ 2 then .error (.busy sample.mountPath) else .ok ())

theorem retried_busyTwice :
    ShareState.exported ≠ .unbound ∧ Settles sample.allowedAttempts busyTwice 3 ∧
      (sample.perform .unmount .exported).Leads (sample.withdrawn ++ sample.attempted busyTwice 3)
        (.done (.ok (), .unmounted)) ∧
      ((sample.attempted busyTwice 3).map Exchange.question).count
        (.pause sample.settings.unmountRetryInterval) = 2 := by
  have hbound : ShareState.exported ≠ .unbound := by decide
  have hbusy : ∀ j, 1 ≤ j → j < 3 → (busyTwice j).isBusy := by
    intro j hj hlt
    obtain rfl | rfl : j = 1 ∨ j = 2 := by omega
    all_goals rfl
  have hthird : Settles sample.allowedAttempts busyTwice 3 :=
    ⟨by decide, by decide, hbusy, by decide⟩
  obtain ⟨-, hcourses, hcounts, hok, -, -⟩ := retried_while_busy (s := sample) hbound
  have hverdict : sample.verdict (busyTwice 3) = .ok () := (hok _).mpr (.inr rfl)
  exact ⟨hbound, hthird, (hcourses _ _ _).mpr ⟨busyTwice, 3, hthird, rfl, hverdict.symm, rfl⟩,
    (hcounts busyTwice 3 (by decide)).2.1⟩

end Share
end ShareAgent
