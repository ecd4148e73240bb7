import ShareAgent.Machine.Scratch

/-! # Sessions

A session is what a program finds while it runs: the files, its streams and a clock that only
sleeping moves. -/
namespace ShareAgent.Machine

/-- Where written octets go. -/
inductive Sink
  | stream (number : Nat)
  | file (at_ : Location)
  | closed
  deriving DecidableEq, Repr

/-- Where read octets come from. -/
inductive Source
  | stream (number : Nat)
  | closed
  deriving DecidableEq, Repr

/-- The octets that a pipe holds before its writer has to wait. -/
def pipeCapacity : Nat := 65536

/-- The surroundings of a running program. Times are in nanoseconds. -/
structure Session where
  files : FileTree
  directory : Location
  searchPath : Text
  clock : Nat
  /-- When the last program in the background ends. -/
  background : Nat
  /-- When the writer of the first input stream was done, if it is. -/
  fed : Option Nat
  /-- How long the program may run after that. -/
  allowance : Nat
  /-- What is left of each input stream. -/
  inputs : Array Bytes
  /-- What was written to each output stream, the latest octet first. -/
  outputs : Array Bytes

namespace Session

/-- The session of a program with this input. -/
def start (files : FileTree) (directory : Location) (searchPath : Text) (allowance : Nat)
    (input : Bytes) : Session where
  files := files
  directory := directory
  searchPath := searchPath
  clock := 0
  background := 0
  fed := if input.length ≤ pipeCapacity then some 0 else none
  allowance := allowance
  inputs := #[input]
  outputs := #[[], []]

/-- The time of the program is over. -/
def isOver (s : Session) : Bool :=
  match s.fed with
  | none => false
  | some since => since + s.allowance ≤ s.clock

/-- The session of a program that never ends. -/
def stall (s : Session) : Session := { s with fed := some 0, allowance := 0 }

/-- The octets on an output stream. -/
def output (s : Session) (number : Nat) : Bytes := (s.outputs.getD number []).reverse

/-- Opens an input stream with this content. -/
def openInput (s : Session) (content : Bytes) : Source × Session :=
  (.stream s.inputs.size, { s with inputs := s.inputs.push content })

/-- Opens an output stream. -/
def openOutput (s : Session) : Nat × Session :=
  (s.outputs.size, { s with outputs := s.outputs.push [] })

/-- Writes octets; answers whether that was possible. -/
def write (s : Session) (octets : Bytes) : Sink → Bool × Session
  | .stream number =>
    (true, { s with outputs := s.outputs.modify number (octets.reverseAux ·) })
  | .file at_ =>
    match s.files.node? at_ with
    | some (.file content runnable) =>
      (true, { s with files := s.files.put at_ (.file (content ++ octets) runnable) })
    | _ => (true, s)
  | .closed => (false, s)

/-- Leaves these octets on an input stream. -/
def leave (s : Session) (number : Nat) (rest : Bytes) : Session :=
  { s with
    inputs := s.inputs.setIfInBounds number rest
    fed := match s.fed with
      | some since => some since
      | none => if number = 0 && rest.length ≤ pipeCapacity then some s.clock else none }

/-- Reads all octets that are left. -/
def readAll (s : Session) : Source → Bytes × Session
  | .stream number => (s.inputs.getD number [], s.leave number [])
  | .closed => ([], s)

/-- Reads up to a line feed; answers the octets before it and whether it was there. -/
def readLine (s : Session) : Source → Bytes × Bool × Session
  | .closed => ([], false, s)
  | .stream number =>
    let octets := s.inputs.getD number []
    let line := octets.takeWhile (· != 10)
    let rest := octets.drop line.length
    (line, ! rest.isEmpty, s.leave number (rest.drop 1))

/-- Sleeps. -/
def sleep (s : Session) (nanoseconds : Nat) : Session := { s with clock := s.clock + nanoseconds }

end Session
end ShareAgent.Machine
