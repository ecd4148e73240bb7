import ShareAgent.Proofs.Dialogue.Asks
import ShareAgent.Share.Lifecycle

/-! # A volume on a truthful host

What matters about the host of a share are three facts: whether the volume is mounted, whether its
export is configured, and whether the server has taken the export over (`Standing`).  On a
*truthful* host (`Share.Truthful`) every step does what it is for or fails without an effect.  Only
a failed reload leaves open whether the server has read its configuration, and whether the server
runs may be answered either way.  Nothing else changes the three facts.

A volume is *covered* if it is mounted whenever it is exported, by the configuration or by the
server.  Two orders of steps keep it covered: what is mounted may be exported, and what is
withdrawn, from the configuration and from the server, may be unmounted.
-/
namespace ShareAgent

/-- How a volume stands on its host. -/
structure Standing where
  /-- A filesystem is mounted at the mount path. -/
  mounted : Bool
  /-- The configuration of the server has the export. -/
  configured : Bool
  /-- The configuration had the export when the server last read it. -/
  live : Bool
  deriving DecidableEq, Repr

namespace Standing

/-- The share is mounted, configured and served. -/
def full : Standing := ⟨true, true, true⟩

/-- Nothing is left of the share. -/
def clear : Standing := ⟨false, false, false⟩

/-- What is exported is mounted. -/
def Covered (h : Standing) : Prop := h.configured ∨ h.live → h.mounted

/-- The volume is exported neither by the configuration nor by the server. -/
def Withdrawn (h : Standing) : Prop := h.configured = false ∧ h.live = false

theorem covered_of_mounted {h : Standing} (hm : h.mounted) : h.Covered := fun _ => hm

theorem Withdrawn.covered {h : Standing} (hw : h.Withdrawn) : h.Covered := by
  rintro (hc | hl)
  · rw [hw.1] at hc
    cases hc
  · rw [hw.2] at hl
    cases hl

end Standing

namespace HostCall

/-- The step does what it is for. -/
def Succeeds : (call : HostCall) → call.Answer → Prop
  | .isMountPoint _, answer => answer.isOk
  | .mountInfo _, answer => answer.isOk
  | .mount _ _, answer => answer.isOk
  | .unmount _, answer => answer.isOk
  | .validateDevice _, answer => answer.isOk
  | .deviceNumber _, answer => answer.isOk
  | .diskFormat _, answer => answer.isOk
  | .resizeFilesystem _ _, answer => answer.isOk
  | .resizeMapping _ _ _, answer => answer.isOk
  | .createExport _, answer => answer.isOk
  | .deleteExport _, answer => answer.isOk
  | .reload, answer => answer.isOk
  | .serverRunning, running => running
  | .listDirectory _, answer => answer.isOk
  | .run _, answer => answer.isOk
  | .pause _, _ => True

/-- The step changes neither mounts nor exports. -/
def Looks : HostCall → Prop
  | .mount _ _ | .unmount _ | .createExport _ | .deleteExport _ | .reload => False
  | _ => True

end HostCall

namespace Share
open Dialogue

/-- **A truthful host.**  A step does what it is for or fails without an effect, except that a
failed reload may have been noticed by the server.  Steps for other paths and volumes change
nothing, and neither do steps that only look. -/
def Truthful (s : Share) : Surroundings HostCall.Answer Standing
  | .isMountPoint path, h, answer, h' =>
    (path = s.mountPath → ∀ mounted, answer = .ok mounted → mounted = h.mounted) ∧ h' = h
  | .mount _ target, h, answer, h' =>
    h' = if answer.isOk ∧ target = s.mountPath then { h with mounted := true } else h
  | .unmount target, h, answer, h' =>
    h' = if answer.isOk ∧ target = s.mountPath then { h with mounted := false } else h
  | .createExport volume, h, answer, h' =>
    h' = if answer.isOk ∧ volume = s.volume.name then { h with configured := true } else h
  | .deleteExport volume, h, answer, h' =>
    h' = if answer.isOk ∧ volume = s.volume.name then { h with configured := false } else h
  | .reload, h, answer, h' => h' = { h with live := h.configured } ∨ ¬ answer.isOk ∧ h' = h
  | _, h, _, h' => h' = h

/-- A truthful host on which the server runs and no step fails. -/
def Flawless (s : Share) : Surroundings HostCall.Answer Standing :=
  fun call h answer h' => s.Truthful call h answer h' ∧ call.Succeeds answer

variable {w : Surroundings HostCall.Answer Standing} {I : Standing → Prop} {s : Share}
variable {h : Standing} {α ε : Type}

/-! ## What a step on the volume does -/

@[simp] theorem truthful_serverRunning {running : Bool} {h' : Standing} :
    s.Truthful .serverRunning h running h' ↔ h' = h := .rfl

@[simp] theorem truthful_pause {span : Span} {h' : Standing} :
    s.Truthful (.pause span) h () h' ↔ h' = h := .rfl

@[simp] theorem truthful_isMountPoint_ok {mounted : Bool} {h' : Standing} :
    s.Truthful (.isMountPoint s.mountPath) h (.ok mounted) h' ↔ mounted = h.mounted ∧ h' = h := by
  show (_ → ∀ found, Except.ok mounted = .ok found → found = h.mounted) ∧ h' = h ↔ _
  simp

@[simp] theorem truthful_isMountPoint_error {e : HostError} {h' : Standing} :
    s.Truthful (.isMountPoint s.mountPath) h (.error e) h' ↔ h' = h := by
  show (_ → ∀ found, Except.error e = .ok found → found = h.mounted) ∧ h' = h ↔ _
  simp

@[simp] theorem truthful_mount_ok {device : Path} {h' : Standing} :
    s.Truthful (.mount device s.mountPath) h (.ok ()) h' ↔ h' = { h with mounted := true } := by
  show h' = (if _ ∧ _ then _ else _) ↔ _
  simp [Except.isOk, Except.toBool]

@[simp] theorem truthful_mount_error {device target : Path} {e : HostError} {h' : Standing} :
    s.Truthful (.mount device target) h (.error e) h' ↔ h' = h := by
  show h' = (if _ ∧ _ then _ else _) ↔ _
  simp [Except.isOk, Except.toBool]

@[simp] theorem truthful_unmount_ok {h' : Standing} :
    s.Truthful (.unmount s.mountPath) h (.ok ()) h' ↔ h' = { h with mounted := false } := by
  show h' = (if _ ∧ _ then _ else _) ↔ _
  simp [Except.isOk, Except.toBool]

@[simp] theorem truthful_unmount_error {target : Path} {e : HostError} {h' : Standing} :
    s.Truthful (.unmount target) h (.error e) h' ↔ h' = h := by
  show h' = (if _ ∧ _ then _ else _) ↔ _
  simp [Except.isOk, Except.toBool]

@[simp] theorem truthful_createExport_ok {id : UInt16} {h' : Standing} :
    s.Truthful (.createExport s.volume.name) h (.ok id) h' ↔
      h' = { h with configured := true } := by
  show h' = (if _ ∧ _ then _ else _) ↔ _
  simp [Except.isOk, Except.toBool]

@[simp] theorem truthful_createExport_error {volume : Text} {e : HostError} {h' : Standing} :
    s.Truthful (.createExport volume) h (.error e) h' ↔ h' = h := by
  show h' = (if _ ∧ _ then _ else _) ↔ _
  simp [Except.isOk, Except.toBool]

@[simp] theorem truthful_deleteExport_ok {h' : Standing} :
    s.Truthful (.deleteExport s.volume.name) h (.ok ()) h' ↔
      h' = { h with configured := false } := by
  show h' = (if _ ∧ _ then _ else _) ↔ _
  simp [Except.isOk, Except.toBool]

@[simp] theorem truthful_deleteExport_error {volume : Text} {e : HostError} {h' : Standing} :
    s.Truthful (.deleteExport volume) h (.error e) h' ↔ h' = h := by
  show h' = (if _ ∧ _ then _ else _) ↔ _
  simp [Except.isOk, Except.toBool]

@[simp] theorem truthful_reload_ok {h' : Standing} :
    s.Truthful .reload h (.ok ()) h' ↔ h' = { h with live := h.configured } := by
  show h' = _ ∨ ¬ _ ∧ h' = h ↔ _
  simp [Except.isOk, Except.toBool]

@[simp] theorem truthful_reload_error {e : HostError} {h' : Standing} :
    s.Truthful .reload h (.error e) h' ↔ h' = { h with live := h.configured } ∨ h' = h := by
  show h' = _ ∨ ¬ _ ∧ h' = h ↔ _
  simp [Except.isOk, Except.toBool]

theorem Truthful.unchanged (call : HostCall) (h : Standing) (answer : call.Answer) (h' : Standing)
    (hlook : call.Looks) (hstep : s.Truthful call h answer h') : h' = h := by
  cases call with
  | isMountPoint path => exact hstep.2
  | mount | unmount | createExport | deleteExport | reload => exact hlook.elim
  | _ => exact hstep

end Share
end ShareAgent
