import ShareAgent.Machine.Session
import ShareAgent.Machine.Shell.Script

/-! # A running shell -/
namespace ShareAgent.Machine.Shell

/-- A shell between two commands. -/
structure State where
  session : Session
  /-- The name under which it runs. -/
  name : Text
  arguments : List Text
  /-- The values of variables. -/
  settings : List (Text × Text)
  /-- The variables that programs get to see. -/
  exports : List Text
  functions : List (Text × Script)
  /-- The shell ends at the first command that fails, if it is not just tested. -/
  strict : Bool
  tested : Bool
  status : Nat
  /-- The status of the last script in the background. -/
  besideStatus : Option Nat
  /-- What it does when a signal comes or when it ends. -/
  traps : List (Text × Text)
  source : Source
  output : Sink
  complaint : Sink
  /-- The line of the command that runs. -/
  line : Nat

/-- How a command left the shell. -/
inductive Flow
  | next
  /-- A loop is to be left, or begun again. -/
  | leave (again : Bool)
  /-- A function is to be left. -/
  | returned
  | exited
  | killed (signal : Nat)
  /-- It still ran when its time was over. -/
  | running
  deriving DecidableEq, Repr

/-- How a program ended. -/
inductive Ending
  | exit (code : Nat)
  | signal (signal : Nat)
  | running
  deriving DecidableEq, Repr

/-- What a command does to the shell. -/
abbrev Action := State → Flow × State

namespace State

/-- A fresh shell with the first streams of a session. -/
def start (session : Session) (name : Text) (arguments : List Text) : State where
  session := session
  name := name
  arguments := arguments
  settings := [("PATH", session.searchPath)]
  exports := ["PATH"]
  functions := []
  strict := false
  tested := false
  status := 0
  besideStatus := none
  traps := []
  source := .stream 0
  output := .stream 0
  complaint := .stream 1
  line := 1

/-- The value of a variable. -/
def value? (s : State) (name : Text) : Option Text := s.settings.lookup name

/-- Sets a variable. -/
def assign (s : State) (name value : Text) : State :=
  { s with settings := (name, value) :: s.settings.filter (·.1 != name) }

/-- Gives variables the values that they have in another shell. -/
def restore (s : State) (names : List Text) (other : State) : State :=
  let kept := s.settings.filter fun v => ! names.contains v.1
  { s with
    settings := other.settings.filter (fun v => names.contains v.1) ++ kept
    exports := other.exports }

/-- The shell with what a program that it starts gets to see. -/
def visible (s : State) : State :=
  { s with settings := s.settings.filter fun v => s.exports.contains v.1 }

/-- The character cuts fields. -/
def cuts (s : State) (c : Char) : Bool :=
  match s.value? "IFS" with
  | some characters => characters.contains c
  | none => c == ' ' || c == '\t' || c == '\n'

/-- Goes on with a status. -/
def withStatus (status : Nat) (s : State) : Flow × State := (.next, { s with status := status })

/-- Writes to the output. -/
def print (s : State) (octets : Bytes) : Bool × State :=
  let (done, session) := s.session.write octets s.output
  (done, { s with session := session })

/-- Writes a complaint, with the shell's name and the line in front. -/
def complain (s : State) (message : Text) : State :=
  let text := s.name ++ ": " ++ Text.ofNat s.line ++ ": " ++ message ++ "\n"
  { s with session := (s.session.write (Utf8.encode text) s.complaint).2 }

/-- Complains and goes on with a status. -/
def failWith (status : Nat) (message : Text) (s : State) : Flow × State :=
  (s.complain message).withStatus status

/-- The shell with the channels and variables of another. -/
def like (s other : State) : State :=
  { other with session := s.session, status := s.status }

end State
end ShareAgent.Machine.Shell
