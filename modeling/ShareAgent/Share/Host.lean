import ShareAgent.Dialogue
import ShareAgent.HostError

/-! # What an agent asks of its host

The questions that the life of a share consists of. Their answers are left open here: a test double,
the tools of a real machine and an adversary all answer the same questions. -/
namespace ShareAgent

/-- A command line tool to be run, with what it reads and how long it may take. -/
structure Command where
  program : Text
  arguments : List Text
  input : Option Text
  timeout : Span
  deriving DecidableEq, Repr

/-- The command on one line. -/
def Command.line (c : Command) : Text := Text.join " " (c.program :: c.arguments)

/-- A mounted filesystem. -/
structure MountRecord where
  mountPoint : Path
  deviceNumber : Nat
  deriving DecidableEq, Repr

/-- A step on the host. -/
inductive HostCall
  /-- Whether a filesystem is mounted on the path. -/
  | isMountPoint (path : Path)
  /-- The filesystem mounted on the path. -/
  | mountInfo (path : Path)
  /-- Mounts the device, creating a filesystem on a blank one. -/
  | mount (device target : Path)
  /-- Unmounts what is mounted on the path. -/
  | unmount (target : Path)
  /-- Checks that the path names a block device. -/
  | validateDevice (device : Path)
  /-- The number of a device. -/
  | deviceNumber (device : Path)
  /-- The format found on a device, empty if there is none. -/
  | diskFormat (device : Path)
  /-- Grows the filesystem to its device; answers whether it had room. -/
  | resizeFilesystem (device mountPath : Path)
  /-- Grows the open mapping of an encrypted volume. -/
  | resizeMapping (volume : Text) (engine : DataEngine) (passphrase : Text)
  /-- Adds the export of a volume, or finds it. -/
  | createExport (volume : Text)
  /-- Removes the export of a volume, if there is one. -/
  | deleteExport (volume : Text)
  /-- Makes the server read its configuration. -/
  | reload
  /-- Whether the server runs. -/
  | serverRunning
  /-- Lists a directory. -/
  | listDirectory (path : Path)
  /-- Runs a command. -/
  | run (command : Command)
  /-- Waits. -/
  | pause (span : Span)
  deriving DecidableEq, Repr

/-- The answers to a step. -/
abbrev HostCall.Answer : HostCall → Type
  | .isMountPoint _ => Except HostError Bool
  | .mountInfo _ => Except HostError MountRecord
  | .mount _ _ => Except HostError Unit
  | .unmount _ => Except HostError Unit
  | .validateDevice _ => Except HostError Unit
  | .deviceNumber _ => Except HostError Nat
  | .diskFormat _ => Except HostError Text
  | .resizeFilesystem _ _ => Except HostError Bool
  | .resizeMapping _ _ _ => Except HostError Unit
  | .createExport _ => Except HostError UInt16
  | .deleteExport _ => Except HostError Unit
  | .reload => Except HostError Unit
  | .serverRunning => Bool
  | .listDirectory _ => Except SystemError Unit
  | .run _ => Except HostError Text
  | .pause _ => Unit

/-- A computation over a host. -/
abbrev OnHost := Dialogue HostCall.Answer

/-- One step on the host. -/
def HostCall.onHost (call : HostCall) : OnHost call.Answer := .put call

end ShareAgent
