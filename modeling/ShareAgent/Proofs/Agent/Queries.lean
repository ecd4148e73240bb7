import ShareAgent.Proofs.Agent.Trimming

/-! # Two questions about one mount table

Whether a path is a mount point and which filesystem is mounted on it are found out by two programs
that walk through the mount table in opposite directions.  On a host that stands still both come to
what the host says about the path (`Still.found`): one to whether there is a filesystem, the other
to the filesystem.  So they agree on every path and every table, also where the path leads nowhere
or the table cannot be read (`queries_agree`), and trimming, which asks both, never finds a
filesystem mounted on a path that is no mount point (`trim_mounted`).
-/
namespace ShareAgent
open Dialogue

namespace Still

/-- Where a path leads, if it leads anywhere. -/
def placeOf : Except SystemError Path → Except HostError (Option Path)
  | .ok place => .ok (some place)
  | .error e => if e = .notFound then .ok none else .error (.system e)

/-- The last of the records for a place. -/
def lastOf (place : Path) (records : List MountRecord) : Option MountRecord :=
  (records.filter (·.mountPoint.same place)).getLast?

/-- **What a host says about a path**: the filesystem that was mounted on it last, if there is
one. -/
def found (k : Still) (path : Path) : Except HostError (Option MountRecord) :=
  match placeOf (k.place path) with
  | .error e => .error e
  | .ok none => .ok none
  | .ok (some place) => (System.recordsOf k.table).map (lastOf place)

/-- The filesystem on a path, or that there is none, as an answer. -/
def orNotMounted (path : Path) : Option MountRecord → Except HostError MountRecord
  | none => .error (.notMounted path)
  | some record => .ok record

variable {k : Still} {ran : List Command} {path : Path}

/-! ## What a host says -/

theorem placeOf_eq_error {answer : Except SystemError Path} {e : HostError}
    (h : placeOf answer = .error e) : ∃ cause, e = .system cause := by
  unfold placeOf at h
  split at h
  · cases h
  · split at h
    · cases h
    · exact ⟨_, (Except.error.inj h).symm⟩

theorem recordsOf_eq_error {answer : Except SystemError Bytes} {e : HostError}
    (h : System.recordsOf answer = .error e) : ∃ cause, e = .system cause := by
  unfold System.recordsOf at h
  split at h
  · exact ⟨_, (Except.error.inj h).symm⟩
  · split at h
    · cases h
    · exact ⟨_, (Except.error.inj h).symm⟩

/-- Only the operating system can fail a look at the mount table. -/
theorem found_eq_error {e : HostError} (h : k.found path = .error e) :
    ∃ cause, e = .system cause := by
  unfold found at h
  split at h
  · rename_i hplace
    obtain rfl := Except.error.inj h
    exact placeOf_eq_error hplace
  · cases h
  · cases hrecords : System.recordsOf k.table with
    | error e' =>
      rw [hrecords] at h
      obtain rfl : e' = e := Except.error.inj h
      exact recordsOf_eq_error hrecords
    | ok records =>
      rw [hrecords] at h
      cases h

theorem place_of_placeOf {answer : Except SystemError Path} {place : Path}
    (h : placeOf answer = .ok (some place)) : answer = .ok place := by
  unfold placeOf at h
  split at h
  · rw [Option.some.inj (Except.ok.inj h)]
  · split at h <;> cases h

theorem reads_of_recordsOf {records : List MountRecord}
    (h : System.recordsOf k.table = .ok records) : k.Reads records := by
  unfold System.recordsOf at h
  split at h
  · cases h
  · rename_i octets htable
    split at h
    · rename_i table htext
      exact ⟨octets, table, htable, htext, Except.ok.inj h⟩
    · cases h

theorem recordsOf_of_reads {records : List MountRecord} (h : k.Reads records) :
    System.recordsOf k.table = .ok records := by
  obtain ⟨octets, table, htable, htext, rfl⟩ := h
  simp only [htable, System.recordsOf, htext]

/-- What is found on a path is the last filesystem there. -/
theorem lastOn_of_found {record : MountRecord} (h : k.found path = .ok (some record)) :
    k.LastOn path record := by
  unfold found at h
  split at h
  · cases h
  · cases h
  · rename_i place hplace
    cases hrecords : System.recordsOf k.table with
    | error e =>
      rw [hrecords] at h
      cases h
    | ok records =>
      rw [hrecords] at h
      exact ⟨place, records, place_of_placeOf hplace, reads_of_recordsOf hrecords,
        Except.ok.inj h⟩

/-- The last filesystem there is found. -/
theorem found_of_lastOn {record : MountRecord} (h : k.LastOn path record) :
    k.found path = .ok (some record) := by
  obtain ⟨place, records, hplace, hreads, hlast⟩ := h
  unfold found
  rw [hplace, recordsOf_of_reads hreads]
  exact congrArg Except.ok hlast

/-! ## What the queries come to -/

theorem resolve_found (path : Path) : (Mount.resolve path).run.Always k.Answers (fun _ => True)
    (fun r _ => r = placeOf (k.place path)) ran := by
  intro answer ran' hplace
  refine ⟨trivial, ?_⟩
  rw [← show answer = k.place path from hplace.1]
  cases answer with
  | ok place => exact rfl
  | error e =>
    unfold placeOf
    by_cases he : e = .notFound
    · simp only [he, if_true]
      exact rfl
    · simp only [he, if_false]
      exact rfl

theorem records_found : Mount.records.run.Always k.Answers (fun _ => True)
    (fun r _ => r = System.recordsOf k.table) ran := by
  rw [System.records_run]
  intro answer ran' htable
  exact ⟨trivial, congrArg System.recordsOf htable.1⟩

theorem any_eq_isSome_lastOf (place : Path) (records : List MountRecord) :
    (records.any fun m => m.mountPoint.same place) = (lastOf place records).isSome := by
  rw [lastOf, List.getLast?_filter, List.isSome_find?, List.any_reverse]

theorem exists_answer (k : Still) (call : KernelCall) (ran : List Command) :
    ∃ answer ran', k.Answers call ran answer ran' := by
  obtain ⟨answer, htells⟩ := k.exists_tells call
  exact ⟨answer, _, htells, rfl⟩

/-- A look with one result comes to it, and runs no command. -/
theorem surelyEnds_of_looking {α : Type} {d : OnKernel α} {a : α} (hd : d.Asks KernelCall.Looks)
    (h : d.Always k.Answers (fun _ => True) (fun b _ => b = a) ran) :
    d.SurelyEnds k.Answers ran a ran :=
  Always.surelyEnds k.exists_answer ((looking_always hd h).imp fun _ _ hend => hend.symm)

/-- **A query that goes by the last filesystem on a place** comes to its answer for what is found. -/
theorem query_found {α : Type} {query : Option Path → HostTask α}
    (answer : Option MountRecord → Except HostError α)
    (hnone : (query none).run = .done (answer none))
    (hsome : ∀ place, query (some place) =
      Mount.records >>= fun records => ExceptT.mk (.done (answer (lastOf place records)))) :
    (Mount.resolve path >>= query).run.Always k.Answers (fun _ => True)
      (fun r _ => r = (k.found path).bind answer) ran := by
  rw [always_run_bind]
  refine (resolve_found path).imp fun place ran₁ hplace => ?_
  rw [found, ← hplace]
  cases place with
  | error e => exact rfl
  | ok place =>
    cases place with
    | none =>
      dsimp only
      rw [hnone]
      exact rfl
    | some place =>
      dsimp only
      rw [hsome, always_run_bind]
      refine records_found.imp fun records ran₂ hrecords => ?_
      rw [← hrecords]
      cases records <;> exact rfl

/-- **Whether the path is a mount point**: whether a filesystem is found there. -/
theorem isMountPoint_found (k : Still) (path : Path) (ran : List Command) :
    (Mount.isMountPoint path).run.SurelyEnds k.Answers ran ((k.found path).map Option.isSome)
      ran := by
  apply surelyEnds_of_looking (Mount.isMountPoint_asks path)
  refine query_found (fun mount => .ok mount.isSome) rfl fun place => ?_
  simp only [any_eq_isSome_lastOf]
  rfl

/-- **The filesystem on the path**: the one that is found there. -/
theorem info_found (k : Still) (path : Path) (ran : List Command) :
    (Mount.info path).run.SurelyEnds k.Answers ran ((k.found path).bind (orNotMounted path))
      ran := by
  apply surelyEnds_of_looking (Mount.info_asks path)
  refine query_found (orNotMounted path) rfl fun place =>
    congrArg (Bind.bind Mount.records) (funext fun records => ?_)
  -- Walked backwards, the first record that fits is the last one.
  rw [lastOf, List.getLast?_filter]
  cases records.reverse.find? (·.mountPoint.same place) <;> rfl

end Still

namespace Share

variable {s : Share} {k : Still} {ran : List Command} {encryptedDevice : Bool}

/-! ## Trimming asks both -/

/-- What trimming answers where nothing is mounted. -/
def notAMountPoint (s : Share) : ShareError :=
  .invalidArgument (s.mountPath.text ++ " is not a mount point")

/-- A failure of another class is another failure. -/
theorem ne_notAMountPoint {e : ShareError} (h : e.fault ≠ .invalidArgument) :
    (.error e : Except ShareError Unit) ≠ .error s.notAMountPoint := by
  intro heq
  apply h
  rw [Except.error.inj heq]
  rfl

/-- The two reasons to refuse a mount path are told apart by their last letters. -/
theorem notExpected_ne (s : Share) : (.error (.invalidArgument
    ("the device of mount point " ++ s.mountPath.text ++ " is not expected")) :
      Except ShareError Unit) ≠ .error s.notAMountPoint := by
  intro h
  have hexpected : (Text.ofString " is not expected").getLast? = some 'd' := rfl
  have hpoint : (Text.ofString " is not a mount point").getLast? = some 't' := rfl
  have hlast := congrArg (fun e => e.message.getLast?) (Except.error.inj h)
  simp [notAMountPoint, ShareError.invalidArgument, List.getLast?_append, hexpected,
    hpoint] at hlast

/-- If the device is the expected one, a filesystem is mounted on the mount path. -/
theorem expectDevice_mounted (device : Path) :
    ((s.expectDevice device).run.refine (HostCall.perform s.settings)).Always k.Answers
      (fun _ => True) (fun r _ => r ≠ .error s.notAMountPoint ∧
        (r = .ok () → ∃ record, k.LastOn s.mountPath record)) ran := by
  rw [expectDevice, mounted, always_refine_step_bind, HostCall.onHost, put_refine]
  refine (k.info_always s.mountPath).imp fun answer ran₁ hinfo => ?_
  cases answer with
  | error e => exact ⟨ne_notAMountPoint Fault.noConfusion, by simp⟩
  | ok record =>
    refine always_refine_step_bind.mpr ?_
    rw [HostCall.onHost, put_refine]
    refine (k.number_always device).imp fun answer ran₂ _ => ?_
    cases answer with
    | error e => exact ⟨ne_notAMountPoint Fault.noConfusion, by simp⟩
    | ok number =>
      show (refine _ (if record.deviceNumber ≠ number then _ else _ :
        ExceptT ShareError OnHost Unit).run).Always _ _ _ _
      by_cases hsame : record.deviceNumber = number
      · rw [if_neg (not_not.mpr hsame)]
        exact ⟨by simp, fun _ => ⟨record, (hinfo.2 record).mp rfl⟩⟩
      · rw [if_pos hsame]
        exact ⟨s.notExpected_ne, by simp⟩

/-- Where a filesystem is mounted, the mount path is a mount point. -/
theorem expectMounted_mounted (hmounted : ∃ record, k.LastOn s.mountPath record) :
    (s.expectMounted.run.refine (HostCall.perform s.settings)).Always k.Answers
      (fun _ => True) (fun r _ => r ≠ .error s.notAMountPoint) ran := by
  rw [expectMounted, always_refine_step_bind, HostCall.onHost, put_refine]
  refine (k.isMountPoint_always s.mountPath).imp fun answer ran₁ hlook => ?_
  cases answer with
  | error e => exact ne_notAMountPoint Fault.noConfusion
  | ok isMountPoint =>
    obtain rfl : isMountPoint = true := Except.ok.inj (hlook.2.mpr hmounted)
    refine always_refine_orFail.mpr ?_
    intro answer ran₂ _
    refine ⟨trivial, ?_⟩
    cases answer with
    | error e => exact ne_notAMountPoint Fault.noConfusion
    | ok names =>
      intro h
      cases h

/-- **Trimming never finds the mount path unmounted that it has found mounted.** -/
theorem trim_mounted : ((s.trim encryptedDevice).run.refine (HostCall.perform s.settings)).Always
    k.Answers (fun _ => True) (fun r _ => r ≠ .error s.notAMountPoint) ran := by
  rw [trim, validate, always_refine_step_bind, HostCall.onHost, put_refine]
  refine (k.validate_always _).imp fun answer ran₁ _ => ?_
  cases answer with
  | error e => exact ne_notAMountPoint Fault.noConfusion
  | ok _ =>
    refine always_refine_run_bind.mpr ((expectDevice_mounted _).imp fun r ran₂ hdevice => ?_)
    cases r with
    | error e => exact hdevice.1
    | ok _ =>
      refine always_refine_run_bind.mpr ((expectMounted_mounted (hdevice.2 rfl)).imp ?_)
      intro r ran₃ hpoint
      cases r with
      | error e => exact hpoint
      | ok _ =>
        refine always_refine_step_bind.mpr ?_
        intro answer ran₄ _
        refine ⟨trivial, ?_⟩
        cases answer with
        | error e => exact ne_notAMountPoint Fault.noConfusion
        | ok _ =>
          intro h
          cases h

end Share

/-! ## Both queries -/

/-- **The two queries agree.**  On a host that stands still, whatever its mount table and its files,
both come to an end with one result.  A path is a mount point exactly if a filesystem is found on
it, and none exactly if it is said that nothing is mounted there; all other failures are the same.
What is found is the last record in the table for the place that the path leads to.  So an agent
that trims on such a host, in any state, never learns that its mount path is no mount point. -/
theorem queries_agree (k : Still) (path : Path) (ran : List Command) : ∃ isMountPoint info,
    (Mount.isMountPoint path).run.SurelyEnds k.Answers ran isMountPoint ran ∧
    (Mount.info path).run.SurelyEnds k.Answers ran info ran ∧
    (isMountPoint = .ok true ↔ ∃ record, info = .ok record) ∧
    (isMountPoint = .ok false ↔ info = .error (.notMounted path)) ∧
    (∀ e, isMountPoint = .error e ↔ info = .error e ∧ e ≠ .notMounted path) ∧
    (∀ record, info = .ok record → k.LastOn path record) ∧
    ∀ (s : Share) (encryptedDevice : Bool) (state : ShareState),
      (s.performOnKernel (.trim encryptedDevice) state).Always k.Answers (fun _ => True)
        (fun outcome _ => outcome.1 ≠
          .error (.invalidArgument (s.mountPath.text ++ " is not a mount point"))) ran := by
  refine ⟨_, _, k.isMountPoint_found path ran, k.info_found path ran, ?_, ?_, ?_, ?_, ?_⟩
  · rcases k.found path with e | _ | record <;> simp [Except.map, Except.bind, Still.orNotMounted]
  · cases hfound : k.found path with
    | error e =>
      obtain ⟨cause, rfl⟩ := Still.found_eq_error hfound
      simp [Except.map, Except.bind]
    | ok mount => cases mount <;> simp [Except.map, Except.bind, Still.orNotMounted]
  · intro e
    cases hfound : k.found path with
    | error e' =>
      obtain ⟨cause, rfl⟩ := Still.found_eq_error hfound
      constructor
      · intro h
        obtain rfl : HostError.system cause = e := Except.error.inj h
        exact ⟨rfl, HostError.noConfusion⟩
      · exact fun h => congrArg Except.error (Except.error.inj h.1)
    | ok mount =>
      cases mount <;> simp +contextual [Except.map, Except.bind, Still.orNotMounted, eq_comm]
  · intro record h
    rcases hfound : k.found path with e | _ | record'
    · rw [hfound] at h
      cases h
    · rw [hfound] at h
      cases h
    · rw [hfound] at h
      obtain rfl : record' = record := Except.ok.inj h
      exact Still.lastOn_of_found hfound
  · intro s encryptedDevice state
    by_cases hbound : state = .unbound
    · rw [hbound, Share.performOnKernel, Share.perform_unbound]
      intro h
      cases h
    · rw [Share.performOnKernel, Share.perform_trim hbound, refine_bind, always_bind]
      exact s.trim_mounted.imp fun result _ h => h

/-- The filesystem on the mount path is found by both. -/
theorem queries_agree_mounted : ∃ record,
    (Mount.isMountPoint Share.sample.mountPath).run.SurelyEnds Share.mountedStill.Answers []
      (.ok true) [] ∧
    (Mount.info Share.sample.mountPath).run.SurelyEnds Share.mountedStill.Answers []
      (.ok record) [] ∧
    Share.mountedStill.LastOn Share.sample.mountPath record := by
  obtain ⟨isMountPoint, info, hpoint, hinfo, htrue, -, -, hlast, -⟩ :=
    queries_agree Share.mountedStill Share.sample.mountPath []
  obtain ⟨-, record, -, -, hmounted, -⟩ := Share.mountedStill_expects.1
  have hends := (Share.mountedStill.info_found Share.sample.mountPath []).1
  rw [Still.found_of_lastOn hmounted] at hends
  obtain ⟨rfl, -⟩ := hinfo.2 _ _ hends
  obtain rfl := htrue.mpr ⟨record, rfl⟩
  exact ⟨record, hpoint, hinfo, hlast record rfl⟩

end ShareAgent
