import ShareAgent.Machine.Program
import ShareAgent.Machine.Shell.Builtin
import ShareAgent.Machine.Shell.Reader

/-! # Running scripts

A script runs by recursion on it. What leads to other scripts, namely their text and programs, is
given from outside. -/
namespace ShareAgent.Machine.Shell

/-- What runs further scripts: their text, the bodies of functions, and programs under a name with
arguments. -/
structure Nested where
  script : Text → Action
  body : Script → Action
  program : Program → Text → List Text → State → Ending × State

/-- The rounds of a loop after which it counts as endless. -/
def roundLimit : Nat := 100000

/-- How a shell ends after its last command. -/
def ending : Flow × State → Ending × State
  | (.killed n, s) => (.signal n, s)
  | (.running, s) => (.running, s)
  | (_, s) => (.exit s.status, s)

/-- Goes on after a program. -/
def afterProgram : Ending × State → Flow × State
  | (.exit code, s) => s.withStatus code
  | (.signal n, s) => s.withStatus (128 + n)
  | (.running, s) => (.running, s)

/-- Runs an action in a shell of its own, of which only the session and the status are kept. -/
def inner (action : Action) (s : State) : Flow × State :=
  match action { s with traps := [] } with
  | (.killed n, t) => (.killed n, t.like s)
  | (.running, t) => (.running, t.like s)
  | (_, t) => (.next, t.like s)

/-- The output of an action, beside what it does. -/
def outputOf (action : Action) (s : State) : Bytes × Flow × State :=
  let (number, session) := s.session.openOutput
  let (flow, t) := inner action { s with session := session, output := .stream number }
  (t.session.output number, flow, t.like s)

/-- The output of a script. -/
def capture (nested : Nested) : Capture := fun script s =>
  match outputOf (nested.script script) s with
  | (octets, .running, s) => (octets, { s with session := s.session.stall })
  | (octets, _, s) => (octets, s)

/-- Leads a channel to what another one leads to. -/
def duplicate (channel : Nat) (target : Text) (s : State) : State :=
  if channel = 0 then if target = "-" then { s with source := .closed } else s
  else
    let sink :=
      if target = "-" then .closed
      else if target = "2" then s.complaint
      else s.output
    if channel = 1 then { s with output := sink } else { s with complaint := sink }

/-- The complaint of the shell about a file that it cannot open. -/
def openComplaint (verb path : Text) (missing : Text) (e : SystemError) : Text :=
  "cannot " ++ verb ++ " " ++ path ++ ": " ++
    (match e with
      | .code number => if e = .notFound then missing else SystemError.describe number
      | .other message => message)

/-- Leads a channel to a file that is written. -/
def leadToFile (channel : Nat) (path : Text) (keep : Bool) (s : State) : Except Text State :=
  let files := s.session.files
  let content := if keep then (files.read s.session.directory ⟨path⟩).toOption.getD [] else []
  match files.write s.session.directory ⟨path⟩ content with
  | .error e => .error (openComplaint "create" path "Directory nonexistent" e)
  | .ok files =>
    match files.locate s.session.directory ⟨path⟩ with
    | .error e => .error (openComplaint "create" path "Directory nonexistent" e)
    | .ok at_ =>
      let s := { s with session := { s.session with files := files } }
      .ok (if channel = 2 then { s with complaint := .file at_ }
        else { s with output := .file at_ })

/-- Leads channels where redirections say; the first that is not possible is the error. -/
def redirect (nested : Nested) : List Redirect → State → Except Text State
  | [], s => .ok s
  | r :: rest, s =>
    let (target, s) := expandText (capture nested) s r.target
    let led : Except Text State := match r.kind with
      | .duplicate => .ok (duplicate r.channel target s)
      | .write => leadToFile r.channel target false s
      | .append => leadToFile r.channel target true s
      | .read =>
        match s.session.files.read s.session.directory ⟨target⟩ with
        | .error e => .error (openComplaint "open" target "No such file" e)
        | .ok content =>
          let (source, session) := s.session.openInput content
          .ok { s with session := session, source := source }
    led.bind (redirect nested rest)

/-- Performs an action with redirected channels. -/
def redirected (nested : Nested) (redirects : List Redirect) (action : Action) : Action := fun s =>
  match redirect nested redirects s with
  | .error complaint => s.failWith 2 complaint
  | .ok t =>
    let (flow, t) := action t
    (flow, { t with source := s.source, output := s.output, complaint := s.complaint })

/-- Assigns the values of words. -/
def assignAll (nested : Nested) : List Word → State → State
  | [], s => s
  | word :: rest, s =>
    match assignment? word with
    | none => assignAll nested rest s
    | some (name, value) =>
      let (value, s) := expandText (capture nested) s value
      assignAll nested rest (s.assign name value)

/-- A part that runs a script. -/
def Part.isOutput : Part → Bool
  | .output .. => true
  | _ => false

/-- The program at a path; a runnable file that names no interpreter is a script of the shell. -/
def programAt (s : State) (p : Path) : Except SystemError Program :=
  match Program.atPath s.session.files s.session.directory p with
  | .ok program => .ok program
  | .error e => if e = .notRunnable then .ok ⟨.shell, [p.text]⟩ else .error e

/-- The first place that has a runnable file with a name. `last` is the error if none has. -/
def placeOf (s : State) (name : Text) (last : SystemError) : List Text → Except SystemError Path
  | [] => .error last
  | place :: places =>
    let p := (⟨place⟩ : Path).join name
    match (s.session.files.locate s.session.directory p).toOption.bind s.session.files.node? with
    | some (.file _ true) => .ok p
    | some (.tool _) => .ok p
    | some _ => placeOf s name .accessDenied places
    | none => placeOf s name last places

/-- The path of the program with a name. -/
def pathOf (s : State) (name : Text) : Except SystemError Path :=
  if name.contains '/' then .ok ⟨name⟩
  else placeOf s name .notFound (Program.places ((s.value? "PATH").getD []))

/-- The program with a name. -/
def lookFor (s : State) (name : Text) : Except SystemError Program :=
  (pathOf s name).bind (programAt s)

/-- The complaint about a program that cannot be run, with the status. A program that is there may
have a status of its own, but not if it was looked for. -/
def programComplaint (sought : Bool) (name : Text) : SystemError → Nat × Text
  | .code number =>
    if number = 2 || number = 20 then (127, name ++ ": not found")
    else (if sought || number = 36 || number = 40 then 127 else 126,
      name ++ ": " ++ SystemError.describe number)
  | .other message => (126, name ++ ": " ++ message)

/-- Runs a program. -/
def runProgram (nested : Nested) (name : Text) (arguments : List Text) : Action := fun s =>
  match lookFor s name with
  | .error e =>
    let (status, complaint) := programComplaint (! name.contains '/') name e
    s.failWith status complaint
  | .ok program => afterProgram (nested.program program name arguments s)

/-- Puts a program in the place of the shell. -/
def becomeProgram (nested : Nested) (name : Text) (arguments : List Text) : Action := fun s =>
  match lookFor s name with
  | .error e =>
    let (status, complaint) := programComplaint false ("exec: " ++ name) e
    (.exited, { s.complain complaint with status := status })
  | .ok program =>
    match nested.program program name arguments s with
    | (.exit code, s) => (.exited, { s with status := code, traps := [] })
    | (.signal n, s) => (.killed n, s)
    | (.running, s) => (.running, s)

/-- What a signal does to the shell that sent it to itself. -/
def deliver (nested : Nested) (signal : Nat) : Action := fun s =>
  if signal = 0 || signal = 17 || signal = 18 || signal = 23 || signal = 28 then s.withStatus 0
  else if 19 ≤ signal && signal ≤ 22 then (.running, s)
  else match if signal = 9 then none else s.traps.lookup (Text.ofNat signal) with
    | none => (.killed signal, s)
    | some [] => s.withStatus 0
    | some action => nested.script action { s with status := 0 }

/-- Sends a signal; the only process that can be reached is the shell itself. -/
def killCommand (nested : Nested) (words : List Text) : Action := fun s =>
  let (signal, processes) := match words with
    | ['-', 's'] :: signal :: rest => (signal? signal, rest)
    | ('-' :: signal) :: rest => (signal? signal, rest)
    | rest => (some 15, rest)
  match signal, processes with
  | none, _ => s.failWith 2 "kill: invalid signal number or name"
  | some _, [] => s.failWith 2 "kill: usage: kill [-s sigspec | -signum | -sigspec] pid ..."
  | some signal, process :: _ =>
    if process = Text.ofNat processId then deliver nested signal s
    else s.failWith 1 "kill: No such process"

/-- What a return from a function or a file leads to. -/
def afterReturn : Flow × State → Flow × State
  | (.returned, s) => (.next, s)
  | other => other

/-- Calls a function. -/
def callFunction (nested : Nested) (body : Script) (arguments : List Text) : Action := fun s =>
  let (flow, t) := afterReturn (nested.body body { s with arguments := arguments })
  (flow, { t with arguments := s.arguments })

/-- Runs a script from a file in this shell. -/
def includeFile (nested : Nested) (words : List Text) : Action := fun s =>
  match words with
  | [] => s.withStatus 0
  | name :: _ =>
    let content := (pathOf s name).bind (s.session.files.read s.session.directory)
    match content with
    | .ok octets => afterReturn (nested.script (Utf8.decodeLossy octets) s)
    | .error e =>
      let complaint := if name.contains '/' then openComplaint "open" name "No such file" e
        else name ++ ": not found"
      (.exited, { s.complain (".: " ++ complaint) with status := 2 })

/-- Waits for what runs in the background. -/
def waitCommand (words : List Text) (s : State) : Flow × State :=
  let session := { s.session with clock := max s.session.clock s.session.background }
  { s with session := session }.withStatus (if words = [] then 0 else s.besideStatus.getD 127)

/-- Performs a command that is no function. -/
def performPlain (nested : Nested) (name : Text) (arguments : List Text) : Action := fun s =>
  if name = "eval" then nested.script (Text.join " " arguments) s
  else if name = "." then includeFile nested arguments s
  else if name = "kill" then killCommand nested arguments s
  else if name = "wait" then waitCommand arguments s
  else match builtin? name arguments with
    | some action => action s
    | none => runProgram nested name arguments s

/-- Tells how a name would be understood. -/
def describeCommand (name : Text) (s : State) : Flow × State :=
  let known := specialNames.contains name || (builtin? name [[]]).isSome ||
    (s.functions.lookup name).isSome
  if known then printCommand "command" (Utf8.encode (name ++ "\n")) s
  else match pathOf s name with
    | .ok p => printCommand "command" (Utf8.encode (p.text ++ "\n")) s
    | .error _ => s.withStatus 127

/-- Performs a command. -/
def perform (nested : Nested) (name : Text) (arguments : List Text) : Action := fun s =>
  match s.functions.lookup name, arguments with
  | some body, _ => callFunction nested body arguments s
  | none, ['-', 'v'] :: word :: _ =>
    if name = "command" then describeCommand word s else performPlain nested name arguments s
  | none, word :: rest =>
    if name = "command" then performPlain nested word rest s
    else performPlain nested name arguments s
  | none, [] => if name = "command" then s.withStatus 0 else performPlain nested name [] s

/-- Ends a strict shell after a command that failed. -/
def checked : Flow × State → Flow × State
  | (.next, s) => (if s.strict && ! s.tested && s.status != 0 then .exited else .next, s)
  | other => other

/-- Runs an action whose failure is only a test. -/
def tested (action : Action) : Action := fun s =>
  let (flow, t) := action { s with tested := true }
  (flow, { t with tested := s.tested })

/-- Runs a command with its assignments. -/
def assigned (nested : Nested) (assignments : List Word) (name : Text) (arguments : List Text) :
    Action := fun s =>
  let names := (assignments.filterMap assignment?).map (·.1)
  let t := assignAll nested assignments s
  let (flow, t) := perform nested name arguments { t with exports := names ++ t.exports }
  (flow, if names.isEmpty then t else t.restore names s)

/-- Runs a simple command. -/
def simple (nested : Nested) (line : Nat) (words : List Word) (redirects : List Redirect) :
    Action := fun s =>
  if s.session.isOver then (.running, s)
  else
    let assignments := words.takeWhile fun word => (assignment? word).isSome
    let (fields, s) := expandWords (capture nested) { s with line := line }
      (words.drop assignments.length)
    match fields with
    | [] =>
      redirected nested redirects (fun s =>
        let runs := assignments.any fun word => word.any Part.isOutput
        let s := assignAll nested assignments s
        s.withStatus (if runs then s.status else 0)) s
    | name :: arguments =>
      if name = "exec" then
        match redirect nested redirects s, arguments with
        | .error complaint, _ => (.exited, { s.complain complaint with status := 2 })
        | .ok s, [] => s.withStatus 0
        | .ok s, name :: arguments =>
          becomeProgram nested name arguments (assignAll nested assignments s)
      else if specialNames.contains name && ! (redirect nested redirects s).isOk then
        let (_, s) := redirected nested redirects (fun s => (.next, s)) s
        (.exited, s)
      else redirected nested redirects (assigned nested assignments name arguments) s

/-- Repeats a body while its condition comes out as wanted. `last` is the status that it ends
with. -/
def iterate (wanted : Bool) (condition body : Action) : Nat → Nat → Action
  | 0, _, s => (.running, s)
  | n + 1, last, s =>
    if s.session.isOver then (.running, s)
    else match tested condition s with
      | (.next, s) =>
        if (s.status == 0) == wanted then
          match body s with
          | (.next, s) => iterate wanted condition body n s.status s
          | (.leave true, s) => iterate wanted condition body n s.status s
          | (.leave false, s) => (.next, s)
          | other => other
        else s.withStatus last
      | (.leave _, s) => (.next, s)
      | other => other

/-- Repeats a body with each of some values in a variable. -/
def eachOf (name : Text) (body : Action) : List Text → Action
  | [], s => (.next, s)
  | value :: rest, s =>
    match body (s.assign name value) with
    | (.next, s) => eachOf name body rest s
    | (.leave true, s) => eachOf name body rest s
    | (.leave false, s) => (.next, s)
    | other => other

/-- Runs an action beside the shell: its time does not count, and no time is set to it. -/
def beside (action : Action) (s : State) : Flow × State :=
  let (flow, t) := inner action { s with
    source := .closed
    session := { s.session with fed := none } }
  let status := match flow with
    | .killed n => 128 + n
    | _ => t.status
  let session := { t.session with
    background := max t.session.background t.session.clock
    clock := s.session.clock
    fed := s.session.fed
    allowance := s.session.allowance }
  ({ s with session := session, besideStatus := some status }).withStatus 0

/-- Runs the body of the first choice that fits. -/
def choose (nested : Nested) (subject : Word) (patterns : List Word) (body otherwise : Action) :
    Action := fun s =>
  let (text, s) := expandText (capture nested) s subject
  let fit := patterns.any fun word => fits (expandParts (capture nested) s word).1 text
  if fit then body { s with status := 0 } else otherwise { s with status := 0 }

/-- Runs a script. -/
def run (nested : Nested) : Script → Action
  | .skip, s => (.next, s)
  | .simple line words redirects, s => checked (simple nested line words redirects s)
  | .sequence first second, s =>
    match run nested first s with
    | (.next, s) => run nested second s
    | other => other
  | .background body, s => beside (run nested body) s
  | .both first second, s =>
    match tested (run nested first) s with
    | (.next, s) => if s.status = 0 then run nested second s else (.next, s)
    | other => other
  | .either first second, s =>
    match tested (run nested first) s with
    | (.next, s) => if s.status = 0 then (.next, s) else run nested second s
    | other => other
  | .negated body, s =>
    match tested (run nested body) s with
    | (.next, s) => s.withStatus (if s.status = 0 then 1 else 0)
    | other => other
  | .pipe first second, s =>
    match outputOf (run nested first) s with
    | (octets, .next, s) =>
      let (source, session) := s.session.openInput octets
      let (flow, t) := inner (run nested second) { s with session := session, source := source }
      checked (flow, t.like s)
    | (_, flow, s) => (flow, s)
  | .loop wanted condition body, s =>
    iterate wanted (run nested condition) (run nested body) roundLimit 0 s
  | .branch condition yes no, s =>
    match tested (run nested condition) s with
    | (.next, s) => if s.status = 0 then run nested yes s else run nested no { s with status := 0 }
    | other => other
  | .each name words body, s =>
    let (values, s) := expandWords (capture nested) s words
    eachOf name (run nested body) values { s with status := 0 }
  | .choice subject patterns body otherwise, s =>
    choose nested subject patterns (run nested body) (run nested otherwise) s
  | .define name body, s => { s with functions := (name, body) :: s.functions }.withStatus 0
  | .group body redirects, s => redirected nested redirects (run nested body) s
  | .inner body redirects, s => checked (redirected nested redirects (inner (run nested body)) s)

/-- Runs the text of a script. -/
def runText (nested : Nested) (text : Text) : Action := fun s =>
  match Script.read text with
  | .ok script => run nested script s
  | .error complaint => (.exited, { s.complain complaint with status := 2 })

/-- Does what is left to do when a shell ends. -/
def leave (nested : Nested) : Flow × State → Flow × State
  | (.killed n, s) => (.killed n, s)
  | (.running, s) => (.running, s)
  | (_, s) =>
    match s.traps.lookup (Text.ofString "EXIT") with
    | none => (.exited, s)
    | some action =>
      let status := s.status
      match nested.script action { s with traps := [] } with
      | (.next, s) => (.exited, { s with status := status })
      | other => other

end ShareAgent.Machine.Shell
