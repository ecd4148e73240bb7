import ShareAgent.Machine.Child
import ShareAgent.Mount.DeviceNumber
import ShareAgent.Mount.Escape

/-! # A machine in memory

An operating system that keeps its files, mounts and devices in memory and records what was asked of
it. Failures of its calls can be set in advance. -/
namespace ShareAgent

namespace Machine

/-- How a command that is not really run comes out. -/
inductive Reply
  | output (text : Text)
  | exit (code : Option Int) (complaint : Text)
  | failure (e : HostError)
  deriving DecidableEq, Repr

/-- The result of a reply for a command. -/
def Reply.result (c : Command) : Reply → Except HostError Text
  | .output text => .ok text
  | .exit code complaint => .error (.commandFailed c.line code complaint)
  | .failure e => .error e

/-- A reply to the commands whose line begins in some way, for a number of times if one is given. -/
structure Rule where
  lead : Text
  uses : Option Nat
  reply : Reply
  deriving DecidableEq, Repr

/-- The rule can be applied to a line. -/
def Rule.fits (r : Rule) (line : Text) : Bool := r.uses != some 0 && r.lead.isPrefixOf line

/-- The reply of the first rule that fits, and the rules after its use. -/
def firstReply (line : Text) : List Rule → Option Reply × List Rule
  | [] => (none, [])
  | r :: rest =>
    if r.fits line then (some r.reply, { r with uses := r.uses.map (· - 1) } :: rest)
    else
      let (reply, rest) := firstReply line rest
      (reply, r :: rest)

/-- Where the results of commands come from. -/
inductive Commands
  /-- Rules give them; a command that no rule fits writes nothing. -/
  | ruled (rules : List Rule)
  /-- Programs found on this search path. -/
  | installed (searchPath : Text)

end Machine

/-- A machine. -/
structure Machine where
  files : Machine.FileTree
  directory : Machine.Location
  mountTable : Option Bytes
  /-- What the status of some paths is, whatever the files. -/
  devices : List (Text × Except SystemError FileStatus)
  /-- The error numbers of the next calls; zero lets a call go on. -/
  mountFaults : List Int
  unmountFaults : List Int
  /-- The error numbers of signals to some processes. -/
  signalFaults : List (Int × Int)
  commands : Machine.Commands
  /-- The calls that were made, and the commands. -/
  calls : List Text
  ran : List Command

namespace Machine

/-- A machine with these files on which nothing has happened. -/
def fresh (files : FileTree) (directory : Location) (commands : Commands) : Machine where
  files := files
  directory := directory
  mountTable := some []
  devices := []
  mountFaults := []
  unmountFaults := []
  signalFaults := []
  commands := commands
  calls := []
  ran := []

/-- Records a call. -/
def record (m : Machine) (words : List Text) : Machine :=
  { m with calls := m.calls ++ [Text.join " " words] }

/-- The fault that a list of error numbers sets first. -/
def fault? (faults : List Int) : Option SystemError :=
  match faults with
  | [] => none
  | number :: _ => if number = 0 then none else some (.code number)

/-- The device number that the mount table shows for a source. -/
def sourceNumber (m : Machine) (device : Path) : Nat :=
  match m.devices.lookup device.text with
  | some (.ok status) => status.deviceNumber
  | _ => 0

/-- The line of the mount table for a mount. -/
def mountLine (number : Nat) (target : Path) (format : Text) (device : Path) : Bytes :=
  Utf8.encode ("100 1 " ++ Text.ofNat (DeviceNumber.major number) ++ ":" ++
    Text.ofNat (DeviceNumber.minor number) ++ " / ") ++
  Mount.escapeBytes (Utf8.encode target.text) ++ Utf8.encode (" rw - " ++ format ++ " ") ++
  Mount.escapeBytes (Utf8.encode device.text) ++ Utf8.encode " rw\n"

/-- The mount point on a line of the mount table, as it is written. -/
def linePoint? (line : Bytes) : Option Bytes := (Text.pieces (· == 0x20) line)[4]?

/-- Drops the first of the elements that satisfy `p`, if there is one. -/
def dropFirst? {α : Type} (p : α → Bool) : List α → Option (List α)
  | [] => none
  | a :: rest => if p a then some rest else (dropFirst? p rest).map (a :: ·)

/-- The mount table without the last mount on a path, if there is one. -/
def dropMount? (table : Bytes) (target : Path) : Option Bytes :=
  let point := Mount.escapeBytes (Utf8.encode target.text)
  let lines := Text.pieces (· == 10) table
  (dropFirst? (fun line => linePoint? line == some point) lines.reverse).map fun lines =>
    (lines.reverse.intersperse [10]).flatten

/-- Mounts a filesystem. -/
def mount (m : Machine) (device target : Path) (format : Text) :
    Except SystemError Unit × Machine :=
  if device.hasNul || target.hasNul || format.contains '\x00' then (.error .invalidArgument, m)
  else
    let m := m.record ["mount", device.text, target.text, format, "0", "none"]
    let fault := fault? m.mountFaults
    let m := { m with mountFaults := m.mountFaults.drop 1 }
    match fault, m.files.canonical m.directory target with
    | some e, _ => (.error e, m)
    | none, .error _ => (.error .notFound, m)
    | none, .ok target =>
      let line := mountLine (m.sourceNumber device) target format device
      (.ok (), { m with mountTable := some (m.mountTable.getD [] ++ line) })

/-- Unmounts what was mounted last on a path. -/
def unmount (m : Machine) (target : Path) : Except SystemError Unit × Machine :=
  if target.hasNul then (.error .invalidArgument, m)
  else
    let m := m.record ["umount", target.text, "0"]
    let fault := fault? m.unmountFaults
    let m := { m with unmountFaults := m.unmountFaults.drop 1 }
    match fault, m.files.canonical m.directory target with
    | some e, _ => (.error e, m)
    | none, .error _ => (.error .notFound, m)
    | none, .ok target =>
      match dropMount? (m.mountTable.getD []) target with
      | none => (.error .invalidArgument, m)
      | some table => (.ok (), { m with mountTable := some table })

/-- What a path names. -/
def status (m : Machine) (p : Path) : Except SystemError FileStatus :=
  if p.hasNul then .error .invalidArgument
  else match m.devices.lookup p.text with
    | some status => status
    | none => m.files.status m.directory p

/-- Signals a process. -/
def hangUp (m : Machine) (process : Int) : Except SystemError Unit × Machine :=
  let m := m.record ["kill", Text.ofInt process, "1"]
  match fault? (m.signalFaults.lookup process).toList with
  | some e => (.error e, m)
  | none => (.ok (), m)

/-- Runs a command. -/
def run (m : Machine) (c : Command) : Except HostError Text × Machine :=
  let m := { m with ran := m.ran ++ [c] }
  match m.commands with
  | .ruled rules =>
    let (reply, rules) := firstReply c.line rules
    ((reply.getD (.output [])).result c, { m with commands := .ruled rules })
  | .installed searchPath =>
    let (result, files) := runCommand m.files m.directory searchPath c
    (result, { m with files := files })

/-- The result of a step that may change the files. -/
def withFiles (m : Machine) : Except SystemError FileTree → Except SystemError Unit × Machine
  | .ok files => (.ok (), { m with files := files })
  | .error e => (.error e, m)

/-- Answers a call to the operating system. -/
def answer : (call : KernelCall) → Machine → call.Answer × Machine
  | .resolve p, m => (m.files.canonical m.directory p, m)
  | .mountTable, m =>
    match m.mountTable with
    | some table => (.ok table, m)
    | none => (.error .notFound, m)
  | .readFile p, m => (m.files.read m.directory p, m)
  | .writeFile p content, m => m.withFiles (m.files.write m.directory p content)
  | .rename p target, m => m.withFiles (m.files.rename m.directory p target)
  | .makeDirectories p, m =>
    let (files, result) := m.files.makeDirectories m.directory p
    (result, { m with files := files })
  | .listDirectory p, m => (m.files.list m.directory p, m)
  | .fileStatus p, m => (m.status p, m)
  | .mount device target format, m => m.mount device target format
  | .unmount target, m => m.unmount target
  | .hangUp process, m => m.hangUp process
  | .run c, m => m.run c
  | .pause _, m => ((), m)

end Machine
end ShareAgent
