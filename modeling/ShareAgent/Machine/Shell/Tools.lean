import ShareAgent.Machine.Shell.Run

/-! # The tools of a machine

What each tool does. The shell is one of them, so scripts lead to tools and back;
`Nested.within` ties the knot to a depth that no sensible script reaches. -/
namespace ShareAgent.Machine.Shell

/-- The nanoseconds of a span of time as `sleep` takes it. -/
def sleepSpan? (word : Text) : Option Nat :=
  let whole := word.takeWhile Char.isDigit
  let (decimals, unit) := match word.drop whole.length with
    | '.' :: rest => (rest.takeWhile Char.isDigit, rest.dropWhile Char.isDigit)
    | rest => ([], rest)
  let factor? := match unit with
    | [] | ['s'] => some 1
    | ['m'] => some 60
    | ['h'] => some 3600
    | ['d'] => some 86400
    | _ => none
  if whole = [] && decimals = [] then none
  else factor?.map fun factor =>
    let number (digits : Text) := digits.foldl (fun n c => 10 * n + (c.toNat - 48)) 0
    (number whole * 1000000000 + number ((decimals ++ Text.ofString "000000000").take 9)) * factor

/-- Writes what a tool has to complain about. -/
def toolComplaint (name message : Text) (s : State) : State :=
  { s with
    session := (s.session.write (Utf8.encode (name ++ ": " ++ message ++ "\n")) s.complaint).2 }

/-- Writes files one after the other. -/
def concatenate (name : Text) : List Text → Nat → State → Ending × State
  | [], status, s => (.exit status, s)
  | ['-'] :: rest, status, s =>
    let (octets, session) := s.session.readAll s.source
    concatenate name rest status ({ s with session := session }.print octets).2
  | path :: rest, status, s =>
    match s.session.files.read s.session.directory ⟨path⟩ with
    | .ok octets => concatenate name rest status (s.print octets).2
    | .error e =>
      let reason := match e with
        | .code number => SystemError.describe number
        | .other message => message
      concatenate name rest 1 (toolComplaint name (path ++ ": " ++ reason) s)

/-- Sleeps for the sum of some spans. -/
def sleepFor (name : Text) (words : List Text) (s : State) : Ending × State :=
  match words with
  | [] => (.exit 1, toolComplaint name
      ("missing operand\nTry '" ++ name ++ " --help' for more information.") s)
  | words =>
    match words.find? fun word => (sleepSpan? word).isNone with
    | some word => (.exit 1, toolComplaint name
        ("invalid time interval ‘" ++ word ++ "’\nTry '" ++ name ++
          " --help' for more information.") s)
    | none =>
      let s := { s with session := s.session.sleep ((words.filterMap sleepSpan?).foldl (· + ·) 0) }
      if s.session.isOver then (.running, s) else (.exit 0, s)

/-- Runs a shell with the arguments of its program. -/
def runShell (nested : Nested) (name : Text) (arguments : List Text) (s : State) :
    Ending × State :=
  let isOption (word : Text) := word.head? == some '-' && word.length > 1
  let options := arguments.takeWhile isOption
  let rest := arguments.drop options.length
  let strict := options.any (·.contains 'e')
  let fresh (name : Text) (arguments : List Text) : State :=
    { s.visible with
      name := name
      arguments := arguments
      functions := []
      strict := strict
      tested := false
      status := 0
      besideStatus := none
      traps := [] }
  let runs (script name : Text) (arguments : List Text) : Ending × State :=
    ending (leave nested (runText nested script (fresh name arguments)))
  if options.any (·.contains 'c') then
    match rest with
    | [] => (.exit 2, toolComplaint name "0: -c requires an argument" s)
    | [script] => runs script name []
    | script :: name :: arguments => runs script name arguments
  else
    match if options.any (·.contains 's') then none else rest.head? with
    | none =>
      let (octets, session) := s.session.readAll s.source
      ending (leave nested (runText nested (Utf8.decodeLossy octets)
        { fresh name rest with session := session }))
    | some file =>
      match s.session.files.read s.session.directory ⟨file⟩ with
      | .ok octets => runs (Utf8.decodeLossy octets) file (rest.drop 1)
      | .error e =>
        (.exit 2, toolComplaint name ("0: " ++ openComplaint "open" file "No such file" e) s)

/-- Runs a tool under a name with arguments. -/
def runTool (nested : Nested) (tool : Tool) (name : Text) (arguments : List Text) (s : State) :
    Ending × State :=
  match tool with
  | .shell => runShell nested name arguments s
  | .echo => (.exit 0, (s.print (programEcho arguments)).2)
  | .printf =>
    match arguments with
    | [] => (.exit 1, toolComplaint name "missing operand" s)
    | format :: arguments =>
      (.exit 0, (s.print (printf format arguments (arguments.length + 1))).2)
  | .cat => concatenate name (if arguments = [] then [['-']] else arguments) 0 s
  | .sleep => sleepFor name arguments s
  | .succeed => (.exit 0, s)
  | .fail => (.exit 1, s)

/-- Runs a program with the channels of a shell; only the session is kept. -/
def runInside (nested : Nested) (program : Program) (name : Text) (arguments : List Text)
    (s : State) : Ending × State :=
  if s.session.isOver then (.running, s)
  else
    let (end_, t) := runTool nested program.tool name (program.arguments ++ arguments) s
    (end_, { s with session := t.session })

/-- Runs further scripts to a depth; what goes deeper never ends. -/
def Nested.within : Nat → Nested
  | 0 => ⟨fun _ s => (.running, s), fun _ s => (.running, s), fun _ _ _ s => (.running, s)⟩
  | n + 1 => ⟨runText (within n), run (within n), runInside (within n)⟩

/-- The depth of scripts. -/
def depthLimit : Nat := 64

/-- Runs a program in a fresh session. -/
def execute (program : Program) (name : Text) (arguments : List Text) (session : Session) :
    Ending × Session :=
  let (end_, s) := runInside (Nested.within depthLimit) program name arguments
    (State.start session name [])
  (end_, s.session)

end ShareAgent.Machine.Shell
