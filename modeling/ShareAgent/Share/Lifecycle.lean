import ShareAgent.Settings
import ShareAgent.Share.Error
import ShareAgent.Share.Host
import ShareAgent.Share.State

/-! # The life of a share

Mounting and exporting a volume, undoing both, growing its filesystem and discarding its unused
blocks. The order of the steps is what keeps a share safe: a volume is exported only once it is
mounted, and unmounted only once it is exported no more. The remembered state says `exported` only
after the last step of a mount, and loses it before the first step of an unmount. -/
namespace ShareAgent

/-- The volume of an agent and how the agent works. -/
structure Share where
  volume : Volume
  settings : Settings
  deriving DecidableEq, Repr

/-- The operations that callers can request. -/
inductive Operation
  | mount
  | unmount
  | resize
  | trim (encryptedDevice : Bool)
  deriving DecidableEq, Repr

/-- The format of an encrypted device. -/
def encryptedFormat : Text := "crypto_LUKS"

namespace Share

/-- A step that fails the operation in the way `blame` says. -/
def orFail {ε α : Type} (blame : ε → ShareError) (step : OnHost (Except ε α)) :
    ExceptT ShareError OnHost α :=
  ExceptT.mk (step.bind fun answer => .done (answer.mapError blame))

/-- Blames a failed step on the host. -/
def failed (task : Text) (e : HostError) : ShareError := .internal task e.message

variable (s : Share)

/-- The directory where the volume is mounted. -/
def mountPath : Path := s.settings.layout.mountPath s.volume.name

/-- The device that holds the filesystem. -/
def device (encrypted : Bool) : Path :=
  s.settings.layout.device s.volume.name s.volume.engine encrypted

/-- Mounts the volume unless it is mounted. -/
def ensureMounted : ExceptT ShareError OnHost Unit := do
  let mounted ← orFail (failed ("failed to check mount point " ++ s.mountPath.text))
    (HostCall.isMountPoint s.mountPath).onHost
  if ! mounted then
    orFail (failed ("failed to mount volume " ++ s.volume.name))
      (HostCall.mount (s.device false) s.mountPath).onHost

/-- Exports the volume and lets the server take the export over. -/
def publish : ExceptT ShareError OnHost Unit := do
  let _ ← orFail (failed "failed to create nfs export") (HostCall.createExport s.volume.name).onHost
  orFail (failed "failed to reload nfs export") HostCall.reload.onHost

/-- Mounts the volume unless it is mounted, then exports it. A failed export leaves it mounted. -/
def mountAndExport : ExceptT ShareError OnHost Unit := do
  s.ensureMounted
  s.publish

/-- Unmounts the path if something is mounted on it. -/
def unmountOnce (path : Path) : OnHost (Except HostError Unit) :=
  .ask (.isMountPoint path) fun
    | .error e => .done (.error e)
    | .ok false => .done (.ok ())
    | .ok true => (HostCall.unmount path).onHost

/-- Unmounts the path; while it is busy, waits and tries up to `retries` more times. -/
def unmountRetrying (path : Path) (interval : Span) : Nat → OnHost (Except HostError Unit)
  | 0 => unmountOnce path
  | retries + 1 => (unmountOnce path).bind fun
    | .ok () => .done (.ok ())
    | .error e =>
      if e.isBusy then .ask (.pause interval) fun _ => unmountRetrying path interval retries
      else .done (.error e)

/-- Removes the export and lets the server drop it. -/
def withdraw : ExceptT ShareError OnHost Unit := do
  orFail (failed "failed to delete nfs export") (HostCall.deleteExport s.volume.name).onHost
  orFail (failed "failed to reload nfs export") HostCall.reload.onHost

/-- Removes the export, then unmounts the volume. -/
def unexportAndUnmount : ExceptT ShareError OnHost Unit := do
  s.withdraw
  orFail (failed ("failed to unmount " ++ s.mountPath.text))
    (unmountRetrying s.mountPath s.settings.unmountRetryInterval (s.settings.unmountRetries - 1))

/-- Checks that a device of the volume is one. -/
def validate (device : Path) : ExceptT ShareError OnHost Unit :=
  orFail (fun e : HostError => .failedPrecondition
      ("volume " ++ s.volume.name ++ " is not valid: " ++ e.message))
    (HostCall.validateDevice device).onHost

/-- The filesystem mounted for the volume. -/
def mounted : ExceptT ShareError OnHost MountRecord :=
  orFail (failed ("failed to resolve mount " ++ s.mountPath.text))
    (HostCall.mountInfo s.mountPath).onHost

/-- Grows the open mapping of an encrypted volume, which does not notice by itself that its device
has grown. -/
def resizeMapping : ExceptT ShareError OnHost Unit := do
  let format ← orFail (failed ("failed to determine disk format of volume " ++ s.volume.name))
    (HostCall.diskFormat (s.settings.layout.rawDevice s.volume.name)).onHost
  if format ≠ encryptedFormat then
    throw (.invalidArgument ("unsupported disk encryption format " ++ format))
  match s.volume.passphrase with
  | none => throw (.failedPrecondition
      ("volume " ++ s.volume.name ++ " is encrypted but has no passphrase"))
  | some passphrase =>
    orFail (failed ("failed to resize crypto device " ++ (s.device true).text ++ " for volume " ++
        s.volume.name ++ " node expansion"))
      (HostCall.resizeMapping s.volume.name s.volume.engine passphrase).onHost

/-- Grows the filesystem to the size of its device. -/
def grow : ExceptT ShareError OnHost Unit := do
  let _ ← orFail (failed "failed to resize filesystem")
    (HostCall.resizeFilesystem (s.device s.volume.encrypted) s.mountPath).onHost

/-- Grows the filesystem, and the mapping beneath it, to the size of the device. -/
def resize : ExceptT ShareError OnHost Unit := do
  s.validate (s.device s.volume.encrypted)
  let _ ← s.mounted
  if s.volume.encrypted then s.resizeMapping
  s.grow

/-- Checks that the mounted filesystem is on the device. -/
def expectDevice (device : Path) : ExceptT ShareError OnHost Unit := do
  let record ← s.mounted
  let number ← orFail (failed ("failed to stat " ++ device.text))
    (HostCall.deviceNumber device).onHost
  if record.deviceNumber ≠ number then
    throw (.invalidArgument
      ("the device of mount point " ++ s.mountPath.text ++ " is not expected"))

/-- Checks that a filesystem is mounted for the volume and can be listed. -/
def expectMounted : ExceptT ShareError OnHost Unit := do
  let isMountPoint ← orFail (failed ("failed to check mount point " ++ s.mountPath.text))
    (HostCall.isMountPoint s.mountPath).onHost
  if ! isMountPoint then
    throw (.invalidArgument (s.mountPath.text ++ " is not a mount point"))
  orFail (fun e : SystemError => .internal ("failed to read " ++ s.mountPath.text) e.message)
    (HostCall.listDirectory s.mountPath).onHost

/-- Discards unused blocks of the filesystem, expected on the mapping or on the raw device. -/
def trim (encryptedDevice : Bool) : ExceptT ShareError OnHost Unit := do
  s.validate (s.device encryptedDevice)
  s.expectDevice (s.device encryptedDevice)
  s.expectMounted
  let _ ← orFail (failed "failed to trim filesystem")
    (HostCall.run ⟨"fstrim", [s.mountPath.text], none, s.settings.commandTimeout⟩).onHost

/-- Performs an operation. The result is what the caller learns, and what the agent remembers. -/
def perform (op : Operation) (state : ShareState) :
    OnHost (Except ShareError Unit × ShareState) :=
  if state = .unbound then .done (.ok (), state)
  else match op with
    | .mount => .ask .serverRunning fun running =>
      if ! running || state.isExported then .done (.ok (), state)
      else s.mountAndExport.run.bind fun
        | .ok () => .done (.ok (), .exported)
        | .error e => .done (.error e, state)
    | .unmount => .ask .serverRunning fun running =>
      if ! running then .done (.ok (), state)
      else s.unexportAndUnmount.run.bind fun result => .done (result, .unmounted)
    | .resize => s.resize.run.bind fun result => .done (result, state)
    | .trim encryptedDevice => (s.trim encryptedDevice).run.bind fun result => .done (result, state)

/-- Performs an operation for a remote caller, who learns the status. -/
def serve (op : Operation) (state : ShareState) :
    OnHost (Except Status Unit × ShareState) :=
  (s.perform op state).bind fun (result, state) => .done (result.mapError .ofShareError, state)

variable {s} {state : ShareState}

@[simp] theorem perform_unbound (op : Operation) :
    s.perform op .unbound = .done (.ok (), .unbound) := by
  simp [perform]

/-- A share that is known to be exported is not mounted again. -/
theorem perform_mount_exported :
    s.perform .mount .exported = .ask .serverRunning fun _ => .done (.ok (), .exported) := by
  simp [perform, ShareState.isExported]

theorem perform_mount_unmounted :
    s.perform .mount .unmounted = .ask .serverRunning fun running =>
      if running then s.mountAndExport.run.bind fun
        | .ok () => .done (.ok (), .exported)
        | .error e => .done (.error e, .unmounted)
      else .done (.ok (), .unmounted) := by
  simp only [perform, reduceCtorEq, if_false]
  congr 1
  funext running
  cases running <;> rfl

theorem perform_unmount (hbound : state ≠ .unbound) :
    s.perform .unmount state = .ask .serverRunning fun running =>
      if running then s.unexportAndUnmount.run.bind fun result => .done (result, .unmounted)
      else .done (.ok (), state) := by
  simp only [perform, hbound, if_false]
  congr 1
  funext running
  cases running <;> rfl

theorem perform_resize (hbound : state ≠ .unbound) :
    s.perform .resize state = s.resize.run.bind fun result => .done (result, state) := by
  simp only [perform, hbound, if_false]

theorem perform_trim (hbound : state ≠ .unbound) (encryptedDevice : Bool) :
    s.perform (.trim encryptedDevice) state =
      (s.trim encryptedDevice).run.bind fun result => .done (result, state) := by
  simp only [perform, hbound, if_false]

end Share
end ShareAgent
