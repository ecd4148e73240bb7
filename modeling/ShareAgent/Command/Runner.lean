import ShareAgent.Share.Host
import ShareAgent.Text.Utf8

/-! # Running a command

A command is run as a child process. The runner feeds it, then asks from time to time whether it has
ended, and kills it at the first such question after its time is over. What the child does is left
open: its answers are those of a dialogue. The number of questions has no bound, so the runner is
given by its rounds, and `runWithin` allows for a number of them. -/
namespace ShareAgent.Command

/-- How a child process ended. -/
inductive Exit
  | code (code : Nat)
  | signal (signal : Nat)
  deriving DecidableEq, Repr

/-- The exit code; a process that a signal ended has none. -/
def Exit.code? : Exit → Option Int
  | .code n => some n
  | .signal _ => none

/-- The child process ended as it should. -/
def Exit.isSuccess (e : Exit) : Bool := e == .code 0

/-- What the runner asks of the child process and of the clock. -/
inductive ChildCall
  /-- Starts the child, with a pipe for its input if `piped`. -/
  | start (program : Text) (arguments : List Text) (piped : Bool)
  /-- Writes the input and closes the pipe. -/
  | feed (input : Text)
  /-- Whether the child has ended. -/
  | poll
  /-- The time. -/
  | now
  /-- Waits until the next round. -/
  | pause
  /-- Kills the child. -/
  | kill
  /-- Waits for the end of the child. -/
  | wait
  /-- What the child wrote to its output and to its error output. -/
  | collect
  deriving DecidableEq, Repr

/-- The answers of the child and the clock. -/
abbrev ChildCall.Answer : ChildCall → Type
  | .start _ _ _ => Except SystemError Unit
  | .feed _ => Except SystemError Unit
  | .poll => Except SystemError (Option Exit)
  | .now => Span
  | .pause => Unit
  | .kill => Unit
  | .wait => Unit
  | .collect => Bytes × Bytes

/-- A computation with a child process. -/
abbrev WithChild := Dialogue ChildCall.Answer

/-- The time between two rounds. -/
def roundInterval : Span := .ofMilliseconds 20

/-- What is read from a stream of the child: nothing, unless it is text. -/
def readText (octets : Bytes) : Text := (Utf8.decode? octets).getD []

/-- What a command that ended comes to. -/
def verdict (c : Command) (exit : Exit) (output complaint : Text) : Except HostError Text :=
  if exit.isSuccess then .ok output
  else .error (.commandFailed c.line exit.code? (Text.trim complaint))

/-- Kills the child and collects it before the failure is reported. -/
def abandon {α : Type} (result : α) : WithChild α :=
  .ask .kill fun _ => .ask .wait fun _ => .done result

/-- Starts the child and feeds it; answers the time at which it has to be done. -/
def launch (c : Command) : WithChild (Except HostError Span) :=
  .ask (.start c.program c.arguments c.input.isSome) fun
    | .error e => .done (.error (.unexpected
        ("Failed to execute " ++ c.line ++ ": " ++ e.message)))
    | .ok () =>
      match c.input with
      | none => deadline
      | some input => .ask (.feed input) fun
        | .error e => abandon (.error (.system e))
        | .ok () => deadline
where
  /-- The time at which the child has to be done. -/
  deadline : WithChild (Except HostError Span) :=
    .ask .now fun now => .done (.ok ⟨now.nanoseconds + c.timeout.nanoseconds⟩)

/-- One round: the result, if the child has ended or its time is over. -/
def round (c : Command) (deadline : Span) : WithChild (Option (Except HostError Text)) :=
  .ask .poll fun
    | .error e => .done (some (.error (.system e)))
    | .ok (some exit) => .ask .collect fun (output, complaint) =>
      .done (some (c.verdict exit (readText output) (readText complaint)))
    | .ok none => .ask .now fun now =>
      if deadline.nanoseconds ≤ now.nanoseconds then
        abandon (some (.error (.commandTimeout c.line c.timeout)))
      else .ask .pause fun _ => .done none

/-- The result of a number of rounds, if that many are enough. -/
def rounds (c : Command) (deadline : Span) : Nat → WithChild (Option (Except HostError Text))
  | 0 => .done none
  | n + 1 => (c.round deadline).bind fun
    | some result => .done (some result)
    | none => c.rounds deadline n

/-- Runs a command; the result, if that many rounds are enough. -/
def runWithin (c : Command) (n : Nat) : WithChild (Option (Except HostError Text)) :=
  c.launch.bind fun
    | .error e => .done (some (.error e))
    | .ok deadline => c.rounds deadline n

end ShareAgent.Command
