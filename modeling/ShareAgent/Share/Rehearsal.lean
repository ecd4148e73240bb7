import ShareAgent.Machine.Files
import ShareAgent.Share.Host

/-! # Rehearsals

A host that plays its part from cues. It keeps just enough state to answer steps for which it has no
cue, and remembers the steps that it was asked for. -/
namespace ShareAgent

/-- A cue for one step: a result, or nothing if the host shall answer by itself. -/
abbrev Cue (α : Type) := Option (Except HostError α)

/-- The cues for each kind of step, in the order in which they are used. -/
structure Cues where
  isMountPoint : List (Cue Bool) := []
  mountInfo : List (Cue Nat) := []
  mount : List (Cue Unit) := []
  unmount : List (Cue Unit) := []
  validateDevice : List (Cue Unit) := []
  deviceNumber : List (Cue Nat) := []
  diskFormat : List (Cue Text) := []
  resizeFilesystem : List (Cue Bool) := []
  resizeMapping : List (Cue Unit) := []
  createExport : List (Cue UInt16) := []
  deleteExport : List (Cue Unit) := []
  reload : List (Cue Unit) := []
  serverRunning : List (Cue Bool) := []
  run : List (Cue Text) := []

/-- A host that plays its part. -/
structure Rehearsal where
  serverRuns : Bool
  mounted : Bool
  exports : List Text
  mountedNumber : Nat
  deviceNumber : Nat
  format : Text
  hasRoom : Bool
  cues : Cues
  files : Machine.FileTree
  directory : Machine.Location
  /-- The steps so far, each on a line. -/
  steps : List Text

namespace Rehearsal

/-- A host with these files before the first step. -/
def opening (files : Machine.FileTree) (directory : Machine.Location) : Rehearsal where
  serverRuns := true
  mounted := false
  exports := []
  mountedNumber := 2051
  deviceNumber := 2051
  format := "crypto_LUKS"
  hasRoom := true
  cues := {}
  files := files
  directory := directory
  steps := []

/-- The next cue; nothing if there are none left. -/
def next {α : Type} (cues : List (Cue α)) : Cue α := cues.head?.join

/-- Remembers a step. -/
def remember (r : Rehearsal) (words : List Text) : Rehearsal :=
  { r with steps := r.steps ++ [Text.join " " words] }

/-- The mounted filesystem, as the host knows it by itself. -/
def mountedRecord (r : Rehearsal) (path : Path) : Except HostError MountRecord :=
  if r.mounted then .ok ⟨path, r.mountedNumber⟩ else .error (.notMounted path)

/-- The number of an export, and the exports with it. -/
def numbered (volume : Text) (exports : List Text) : UInt16 × List Text :=
  match exports.idxOf? volume with
  | some i => (.ofNat (i + 1), exports)
  | none => (.ofNat (exports.length + 1), exports ++ [volume])

/-- The words that a command is remembered by. -/
def commandWords (c : Command) : List Text :=
  Text.ofString "run" :: c.program :: c.arguments ++
    [Text.ofString "stdin=" ++ c.input.getD "none",
      "timeout_ms=" ++ Text.ofNat c.timeout.milliseconds]

/-- Answers a step. -/
def answer : (call : HostCall) → Rehearsal → call.Answer × Rehearsal
  | .isMountPoint path, r =>
    let r := r.remember ["is_mount_point", path.text]
    ((next r.cues.isMountPoint).getD (.ok r.mounted),
      { r with cues.isMountPoint := r.cues.isMountPoint.drop 1 })
  | .mountInfo path, r =>
    let r := r.remember ["mount_info", path.text]
    let record := match next r.cues.mountInfo with
      | none => r.mountedRecord path
      | some result => result.map fun number => ⟨path, number⟩
    (record, { r with cues.mountInfo := r.cues.mountInfo.drop 1 })
  | .mount device target, r =>
    let r := r.remember ["mount", device.text, target.text]
    let result := (next r.cues.mount).getD (.ok ())
    (result, { r with cues.mount := r.cues.mount.drop 1, mounted := r.mounted || result.isOk })
  | .unmount target, r =>
    let r := r.remember ["unmount", target.text]
    let result := (next r.cues.unmount).getD (.ok ())
    (result, { r with
      cues.unmount := r.cues.unmount.drop 1
      mounted := r.mounted && ! result.isOk })
  | .validateDevice device, r =>
    let r := r.remember ["validate_device", device.text]
    ((next r.cues.validateDevice).getD (.ok ()),
      { r with cues.validateDevice := r.cues.validateDevice.drop 1 })
  | .deviceNumber device, r =>
    let r := r.remember ["device_number", device.text]
    ((next r.cues.deviceNumber).getD (.ok r.deviceNumber),
      { r with cues.deviceNumber := r.cues.deviceNumber.drop 1 })
  | .diskFormat device, r =>
    let r := r.remember ["disk_format", device.text]
    ((next r.cues.diskFormat).getD (.ok r.format),
      { r with cues.diskFormat := r.cues.diskFormat.drop 1 })
  | .resizeFilesystem device mountPath, r =>
    let r := r.remember ["resize_filesystem", device.text, mountPath.text]
    ((next r.cues.resizeFilesystem).getD (.ok r.hasRoom),
      { r with cues.resizeFilesystem := r.cues.resizeFilesystem.drop 1 })
  | .resizeMapping volume engine passphrase, r =>
    let r := r.remember ["resize_encrypted_device", volume, engine.text, passphrase]
    ((next r.cues.resizeMapping).getD (.ok ()),
      { r with cues.resizeMapping := r.cues.resizeMapping.drop 1 })
  | .createExport volume, r =>
    let r := r.remember ["create_export", volume]
    let r' := { r with cues.createExport := r.cues.createExport.drop 1 }
    match next r.cues.createExport with
    | some result => (result, r')
    | none =>
      let (id, exports) := numbered volume r.exports
      (.ok id, { r' with exports := exports })
  | .deleteExport volume, r =>
    let r := r.remember ["delete_export", volume]
    let result := (next r.cues.deleteExport).getD (.ok ())
    (result, { r with
      cues.deleteExport := r.cues.deleteExport.drop 1
      exports := if result.isOk then r.exports.filter (· != volume) else r.exports })
  | .reload, r =>
    let r := r.remember ["reload"]
    ((next r.cues.reload).getD (.ok ()), { r with cues.reload := r.cues.reload.drop 1 })
  | .serverRunning, r =>
    let r := r.remember ["server_running"]
    let running := match next r.cues.serverRunning with
      | some (.ok running) => running
      | _ => r.serverRuns
    (running, { r with cues.serverRunning := r.cues.serverRunning.drop 1 })
  | .listDirectory path, r => ((r.files.list r.directory path).map fun _ => (), r)
  | .run c, r =>
    let r := r.remember (commandWords c)
    ((next r.cues.run).getD (.ok []), { r with cues.run := r.cues.run.drop 1 })
  | .pause _, r => ((), r)

end Rehearsal
end ShareAgent
