import ShareAgent.Command.Runner
import ShareAgent.Machine.Shell.Tools

/-! # Child processes of a machine

A child process runs all at once when its input is known; the time that it took is told when the
runner asks. It runs only as long as the runner lets it. -/
namespace ShareAgent.Machine

/-- The least time from the start of a process to its end. -/
def startTime : Nat := 1000000

/-- How long a command may run: until the first round after its time is over. -/
def allowance (c : Command) : Nat :=
  let round := Command.roundInterval.nanoseconds
  (c.timeout.nanoseconds + round - 1) / round * round

/-- A child process between two questions. -/
structure Child where
  files : FileTree
  directory : Location
  searchPath : Text
  allowance : Nat
  clock : Nat
  /-- The program with its name and arguments, once it is started. -/
  program : Option (Program × Text × List Text)
  /-- How it ended and what its session looked like then, once it ran. -/
  ran : Option (Shell.Ending × Session)

namespace Child

/-- Runs the child with this input. -/
def execute (c : Child) (input : Bytes) : Child :=
  match c.program with
  | none => c
  | some (program, name, arguments) =>
    let (ending, session) := Shell.execute program name arguments
      (.start c.files c.directory c.searchPath c.allowance input)
    { c with ran := some (ending, session), files := session.files }

/-- Starts the child. -/
def start (c : Child) (name : Text) (arguments : List Text) (piped : Bool) :
    Except SystemError Unit × Child :=
  if (name :: arguments).any (·.contains '\x00') then (.error .nulInCommand, c)
  else match Program.find c.files c.directory c.searchPath name with
    | .error e => (.error e, c)
    | .ok program =>
      let c := { c with program := some (program, name, arguments) }
      (.ok (), if piped then c else c.execute [])

/-- Feeds the child. Who writes more than a pipe holds waits for the child, and fails if it ends
before. -/
def feed (c : Child) (input : Text) : Except SystemError Unit × Child :=
  let c := c.execute (Utf8.encode input)
  match c.ran with
  | none => (.ok (), c)
  | some (_, session) =>
    match session.fed with
    | some time => (.ok (), { c with clock := max c.clock time })
    | none => (.error .brokenPipe, { c with clock := session.clock + startTime })

/-- How the child ended, if it has. -/
def poll (c : Child) : Option Command.Exit :=
  match c.ran with
  | none => none
  | some (ending, session) =>
    if c.clock < session.clock + startTime then none
    else match ending with
      | .exit code => some (.code code)
      | .signal signal => some (.signal signal)
      | .running => none

/-- What the child wrote to a stream. -/
def written (c : Child) (number : Nat) : Bytes :=
  match c.ran with
  | none => []
  | some (_, session) => session.output number

/-- Answers a question of the runner. -/
def answer : (call : Command.ChildCall) → Child → call.Answer × Child
  | .start name arguments piped, c => c.start name arguments piped
  | .feed input, c => c.feed input
  | .poll, c => (.ok c.poll, c)
  | .now, c => (⟨c.clock⟩, c)
  | .pause, c => ((), { c with clock := c.clock + Command.roundInterval.nanoseconds })
  | .kill, c => ((), c)
  | .wait, c => ((), c)
  | .collect, c => ((c.written 0, c.written 1), c)

end Child

/-- Runs a command on the files of a machine. -/
def runCommand (files : FileTree) (directory : Location) (searchPath : Text) (c : Command) :
    Except HostError Text × FileTree :=
  let rounds := allowance c / Command.roundInterval.nanoseconds + 2
  let (result, child) := (c.runWithin rounds).run Child.answer
    ⟨files, directory, searchPath, allowance c, 0, none, none⟩
  (result.getD (.error (.commandTimeout c.line c.timeout)), child.files)

end ShareAgent.Machine
