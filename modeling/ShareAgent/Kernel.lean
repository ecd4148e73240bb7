import ShareAgent.Share.Host

/-! # What the host's tools ask of the operating system

The questions beneath the steps of `HostCall`: files, mounts, signals and commands. -/
namespace ShareAgent

/-- What a path names. -/
inductive FileKind
  | regular
  | directory
  | link
  | pipe
  | socket
  | characterDevice
  | blockDevice
  | unknown
  deriving DecidableEq, Repr

/-- The name of a file kind in messages. -/
def FileKind.text : FileKind → Text
  | .regular => "RegularFile"
  | .directory => "Directory"
  | .link => "Symlink"
  | .pipe => "Fifo"
  | .socket => "Socket"
  | .characterDevice => "CharacterDevice"
  | .blockDevice => "BlockDevice"
  | .unknown => "Unknown"

/-- What the operating system tells about a file: its kind, and its number if it is a device. -/
structure FileStatus where
  kind : FileKind
  deviceNumber : Nat
  deriving DecidableEq, Repr

/-- A call to the operating system. -/
inductive KernelCall
  /-- The absolute path without links that leads to the same file. -/
  | resolve (path : Path)
  /-- The table of mounted filesystems. -/
  | mountTable
  /-- The octets of a file. -/
  | readFile (path : Path)
  /-- Empties or creates a file, then writes the octets. -/
  | writeFile (path : Path) (content : Bytes)
  /-- Gives a file another name, which it takes over from what had it. -/
  | rename (path target : Path)
  /-- Creates a directory and those above it, as far as they are missing. -/
  | makeDirectories (path : Path)
  /-- The names in a directory. -/
  | listDirectory (path : Path)
  /-- What a path names, links followed. -/
  | fileStatus (path : Path)
  /-- Mounts a filesystem of a given type. -/
  | mount (device target : Path) (format : Text)
  /-- Unmounts the filesystem mounted last on the path. -/
  | unmount (target : Path)
  /-- Tells a process to read its configuration again. -/
  | hangUp (process : Int)
  /-- Runs a command. -/
  | run (command : Command)
  /-- Waits. -/
  | pause (span : Span)
  deriving DecidableEq, Repr

/-- The answers to a call. -/
abbrev KernelCall.Answer : KernelCall → Type
  | .resolve _ => Except SystemError Path
  | .mountTable => Except SystemError Bytes
  | .readFile _ => Except SystemError Bytes
  | .writeFile _ _ => Except SystemError Unit
  | .rename _ _ => Except SystemError Unit
  | .makeDirectories _ => Except SystemError Unit
  | .listDirectory _ => Except SystemError (List Text)
  | .fileStatus _ => Except SystemError FileStatus
  | .mount _ _ _ => Except SystemError Unit
  | .unmount _ => Except SystemError Unit
  | .hangUp _ => Except SystemError Unit
  | .run _ => Except HostError Text
  | .pause _ => Unit

/-- A computation over an operating system. -/
abbrev OnKernel := Dialogue KernelCall.Answer

/-- One call to the operating system. -/
def KernelCall.onKernel (call : KernelCall) : OnKernel call.Answer := .put call

/-- A computation over an operating system that can fail. -/
abbrev HostTask := ExceptT HostError OnKernel

namespace HostTask

/-- A call whose failure, read by `blame`, ends the task. -/
def call {ε α : Type} (blame : ε → HostError) (step : OnKernel (Except ε α)) : HostTask α :=
  ExceptT.mk (step.bind fun answer => .done (answer.mapError blame))

/-- A call whose failure is the failure of the task. -/
def system {α : Type} (step : OnKernel (Except SystemError α)) : HostTask α := call .system step

/-- Runs a command; its failure is the failure of the task. -/
def command (c : Command) : HostTask Text := ExceptT.mk (KernelCall.run c).onKernel

end HostTask

end ShareAgent
