import ShareAgent.Proofs.Dialogue.Asks
import ShareAgent.Share.Lifecycle

/-! # The steps of an operation

Each operation comes to few steps on the host, whatever the answers are: only these, with these
arguments, and in all of its courses.  What holds of all of them holds of the operation
(`Asks.mono`).
-/
namespace ShareAgent.Share
open Dialogue

variable (s : Share)

/-- The steps of mounting and exporting. -/
def mountSteps : List HostCall :=
  [.isMountPoint s.mountPath, .mount (s.device false) s.mountPath, .createExport s.volume.name,
    .reload]

/-- The steps of unexporting and unmounting. -/
def unmountSteps : List HostCall :=
  [.deleteExport s.volume.name, .reload, .isMountPoint s.mountPath, .unmount s.mountPath,
    .pause s.settings.unmountRetryInterval]

/-- The step that grows the mapping, if there is a passphrase for it. -/
def mappingSteps : List HostCall :=
  s.volume.passphrase.toList.map (.resizeMapping s.volume.name s.volume.engine)

/-- The steps of growing the filesystem. -/
def resizeSteps : List HostCall :=
  .validateDevice (s.device s.volume.encrypted) :: .mountInfo s.mountPath ::
    .diskFormat (s.settings.layout.rawDevice s.volume.name) ::
    .resizeFilesystem (s.device s.volume.encrypted) s.mountPath :: s.mappingSteps

/-- The command that discards unused blocks. -/
def trimCommand : Command := ⟨"fstrim", [s.mountPath.text], none, s.settings.commandTimeout⟩

/-- The steps of discarding unused blocks. -/
def trimSteps (encryptedDevice : Bool) : List HostCall :=
  [.validateDevice (s.device encryptedDevice), .mountInfo s.mountPath,
    .deviceNumber (s.device encryptedDevice), .isMountPoint s.mountPath,
    .listDirectory s.mountPath, .run s.trimCommand]

/-- The steps of an operation. -/
def steps : Operation → List HostCall
  | .mount => .serverRunning :: s.mountSteps
  | .unmount => .serverRunning :: s.unmountSteps
  | .resize => s.resizeSteps
  | .trim encryptedDevice => s.trimSteps encryptedDevice

variable {s} {α ε : Type}

theorem asks_orFail {p : HostCall → Prop} {blame : ε → ShareError} {step : OnHost (Except ε α)}
    (hstep : step.Asks p) : (orFail blame step).run.Asks p :=
  hstep.bind fun _ => trivial

/-! ## Mounting and unmounting -/

theorem mountAndExport_asks : s.mountAndExport.run.Asks (· ∈ s.mountSteps) := by
  refine Asks.run_bind ?_ fun _ => ?_
  · refine Asks.run_bind (asks_orFail (asks_put (by simp [mountSteps]))) fun mounted => ?_
    cases mounted with
    | true => trivial
    | false => exact asks_orFail (asks_put (by simp [mountSteps]))
  · exact Asks.run_bind (asks_orFail (asks_put (by simp [mountSteps]))) fun _ =>
      asks_orFail (asks_put (by simp [mountSteps]))

theorem unmountOnce_asks {p : HostCall → Prop} {path : Path} (hlook : p (.isMountPoint path))
    (hunmount : p (.unmount path)) : (unmountOnce path).Asks p := by
  refine ⟨hlook, ?_⟩
  rintro (e | _ | _)
  · trivial
  · trivial
  · exact asks_put hunmount

theorem unmountRetrying_asks {p : HostCall → Prop} {path : Path} {interval : Span}
    (hlook : p (.isMountPoint path)) (hunmount : p (.unmount path)) (hpause : p (.pause interval))
    (retries : Nat) : (unmountRetrying path interval retries).Asks p := by
  induction retries with
  | zero => exact unmountOnce_asks hlook hunmount
  | succ retries ih =>
    refine (unmountOnce_asks hlook hunmount).bind ?_
    rintro (e | ⟨⟩)
    · by_cases hbusy : e.isBusy
      · simp only [hbusy, if_true]
        exact ⟨hpause, fun _ => ih⟩
      · simp only [hbusy]
        trivial
    · trivial

theorem unexportAndUnmount_asks : s.unexportAndUnmount.run.Asks (· ∈ s.unmountSteps) := by
  refine Asks.run_bind ?_ fun _ => asks_orFail (unmountRetrying_asks (by simp [unmountSteps])
    (by simp [unmountSteps]) (by simp [unmountSteps]) _)
  exact Asks.run_bind (asks_orFail (asks_put (by simp [unmountSteps]))) fun _ =>
    asks_orFail (asks_put (by simp [unmountSteps]))

/-! ## Growing and trimming -/

theorem validate_asks (device : Path) :
    (s.validate device).run.Asks (· = .validateDevice device) :=
  asks_orFail (asks_put rfl)

theorem mounted_asks : s.mounted.run.Asks (· = .mountInfo s.mountPath) := asks_orFail (asks_put rfl)

theorem grow_asks : s.grow.run.Asks
    (· = .resizeFilesystem (s.device s.volume.encrypted) s.mountPath) :=
  Asks.run_bind (asks_orFail (asks_put rfl)) fun _ => trivial

theorem resizeMapping_asks : s.resizeMapping.run.Asks (· ∈ s.resizeSteps) := by
  refine Asks.run_bind (asks_orFail (asks_put (by simp [resizeSteps]))) fun format => ?_
  by_cases hf : format ≠ encryptedFormat
  · rw [if_pos hf]
    trivial
  · rw [if_neg hf]
    cases hpassphrase : s.volume.passphrase with
    | none => trivial
    | some passphrase =>
      exact asks_orFail (asks_put (by simp [resizeSteps, mappingSteps, hpassphrase]))

theorem resize_asks : s.resize.run.Asks (· ∈ s.resizeSteps) := by
  have hgrow : s.grow.run.Asks (· ∈ s.resizeSteps) :=
    grow_asks.mono (by simp [resizeSteps])
  refine Asks.run_bind ((validate_asks _).mono (by simp [resizeSteps])) fun _ =>
    Asks.run_bind (mounted_asks.mono (by simp [resizeSteps])) fun _ => ?_
  cases s.volume.encrypted with
  | false => exact hgrow
  | true => exact Asks.run_bind resizeMapping_asks fun _ => hgrow

theorem expectDevice_asks (encryptedDevice : Bool) :
    (s.expectDevice (s.device encryptedDevice)).run.Asks (· ∈ s.trimSteps encryptedDevice) := by
  refine Asks.run_bind (mounted_asks.mono (by simp [trimSteps])) fun record =>
    Asks.run_bind (asks_orFail (asks_put (by simp [trimSteps]))) fun number => ?_
  by_cases hn : record.deviceNumber ≠ number
  · rw [if_pos hn]
    trivial
  · rw [if_neg hn]
    trivial

theorem expectMounted_asks (encryptedDevice : Bool) :
    s.expectMounted.run.Asks (· ∈ s.trimSteps encryptedDevice) := by
  refine Asks.run_bind (asks_orFail (asks_put (by simp [trimSteps]))) fun isMountPoint => ?_
  cases isMountPoint with
  | false => trivial
  | true => exact asks_orFail (asks_put (by simp [trimSteps]))

theorem trim_asks (encryptedDevice : Bool) :
    (s.trim encryptedDevice).run.Asks (· ∈ s.trimSteps encryptedDevice) :=
  Asks.run_bind ((validate_asks _).mono (by simp [trimSteps])) fun _ =>
    Asks.run_bind (expectDevice_asks _) fun _ => Asks.run_bind (expectMounted_asks _) fun _ =>
      Asks.run_bind (asks_orFail (asks_put (by simp [trimSteps, trimCommand]))) fun _ => trivial

/-- **An operation takes its own steps only**, whatever the host answers. -/
theorem perform_asks (op : Operation) (state : ShareState) :
    (s.perform op state).Asks (· ∈ s.steps op) := by
  by_cases hbound : state = .unbound
  · subst hbound
    rw [perform_unbound]
    trivial
  cases op with
  | mount =>
    simp only [perform, hbound, if_false]
    refine ⟨List.mem_cons_self, fun running => ?_⟩
    dsimp only
    split
    · trivial
    · refine (mountAndExport_asks.mono fun _ => List.mem_cons_of_mem _).bind fun result => ?_
      cases result <;> trivial
  | unmount =>
    rw [perform_unmount hbound]
    refine ⟨List.mem_cons_self, fun running => ?_⟩
    cases running with
    | false => trivial
    | true =>
      exact (unexportAndUnmount_asks.mono fun _ => List.mem_cons_of_mem _).bind fun _ => trivial
  | resize =>
    rw [perform_resize hbound]
    exact resize_asks.bind fun _ => trivial
  | trim encryptedDevice =>
    rw [perform_trim hbound]
    exact (trim_asks encryptedDevice).bind fun _ => trivial

end ShareAgent.Share
