import ShareAgent.Machine.Shell.Expand
import ShareAgent.Machine.Shell.Print

/-! # Commands that the shell performs itself -/
namespace ShareAgent.Machine.Shell

/-- The names of signals. -/
def signals : List (Text × Nat) :=
  [("HUP", 1), ("INT", 2), ("QUIT", 3), ("ILL", 4), ("TRAP", 5), ("ABRT", 6), ("BUS", 7),
    ("FPE", 8), ("KILL", 9), ("USR1", 10), ("SEGV", 11), ("USR2", 12), ("PIPE", 13), ("ALRM", 14),
    ("TERM", 15), ("CHLD", 17), ("CONT", 18), ("STOP", 19), ("TSTP", 20), ("TTIN", 21),
    ("TTOU", 22), ("URG", 23), ("WINCH", 28)]

/-- The number of a signal given by name or number. -/
def signal? (t : Text) : Option Nat :=
  match (Numeral.readWord 6 t).toOption with
  | some n => some n
  | none => signals.lookup (t.map Char.toUpper)

/-- The name under which a trap is kept. -/
def trapName (t : Text) : Text :=
  if t = "0" || t = "EXIT" then "EXIT"
  else match signal? t with
    | some n => Text.ofNat n
    | none => t

/-- A whole number, as far as the shell takes it for one. -/
def whole? (t : Text) : Option Int := (Numeral.readInt 64 (Text.trimBy isBlank t)).toOption

/-- What a comparison of numbers tells; an argument that is none is the error. -/
def compareNumbers (op a b : Text) : Except Text Bool :=
  match whole? a, whole? b with
  | none, _ => .error a
  | _, none => .error b
  | some a, some b =>
    .ok (if op = "-eq" then a == b
      else if op = "-ne" then a != b
      else if op = "-lt" then decide (a < b)
      else if op = "-le" then decide (a ≤ b)
      else if op = "-gt" then decide (b < a)
      else decide (b ≤ a))

/-- The operators that compare numbers. -/
def numberOperators : List Text := ["-eq", "-ne", "-lt", "-le", "-gt", "-ge"]

/-- A test of one argument. -/
def testOne (s : State) (op argument : Text) : Bool :=
  let files := s.session.files
  let status := files.status s.session.directory ⟨argument⟩
  let kind? := status.toOption.map (·.kind)
  if op = "-n" then argument ≠ []
  else if op = "-z" then argument = []
  else if op = "-f" then kind? == some .regular
  else if op = "-d" then kind? == some .directory
  else if op = "-b" then kind? == some .blockDevice
  else if op = "-c" then kind? == some .characterDevice
  else if op = "-s" then
    match files.read s.session.directory ⟨argument⟩ with
    | .ok content => ! content.isEmpty
    | .error _ => false
  else if op = "-h" || op = "-L" then
    match files.reach .link s.session.directory ⟨argument⟩ with
    | .ok (.found at_) =>
      match files.node? at_ with
      | some (.link _) => true
      | _ => false
    | _ => false
  else if op = "-x" then
    match (files.locate s.session.directory ⟨argument⟩).toOption.bind files.node? with
    | some (.file _ runnable) => runnable
    | some (.device ..) => false
    | found => found.isSome
  else kind?.isSome

/-- A test of several conditions, each of which `tell` tells. -/
def connected (tell : List Text → Except Text Bool) (words : List Text) : Except Text Bool :=
  match words.idxOf? (Text.ofString "-o"), words.idxOf? (Text.ofString "-a"), words with
  | some i, _, _ => do return (← tell (words.take i)) || (← tell (words.drop (i + 1)))
  | none, some i, _ => do return (← tell (words.take i)) && (← tell (words.drop (i + 1)))
  | none, none, ['!'] :: rest => (tell rest).map (! ·)
  | none, none, _ => .ok false

/-- What a test tells; an argument that should be a number is the error. -/
def test (s : State) : Nat → List Text → Except Text Bool
  | 0, _ => .ok false
  | _, [] => .ok false
  | _, [a] => .ok (a ≠ [])
  | n + 1, [a, op, b] =>
    if op = "=" then .ok (a == b)
    else if op = "!=" then .ok (a != b)
    else if numberOperators.contains op then compareNumbers op a b
    else connected (test s n) [a, op, b]
  | n + 1, [op, a] => if op = "!" then (test s n [a]).map (! ·) else .ok (testOne s op a)
  | n + 1, words => connected (test s n) words

/-- Tells by the status what a test tells. -/
def testCommand (name : Text) (words : List Text) (s : State) : Flow × State :=
  match test s (words.length + 1) words with
  | .ok true => s.withStatus 0
  | .ok false => s.withStatus 1
  | .error word => s.failWith 2 (name ++ ": Illegal number: " ++ word)

/-- Prints and tells whether that was possible. -/
def printCommand (name : Text) (octets : Bytes) (s : State) : Flow × State :=
  match s.print octets with
  | (true, s) => s.withStatus 0
  | (false, s) => s.failWith 1 (name ++ ": " ++ name ++ ": I/O error")

/-- The values that a line gives to some variables. The last takes all that is left, without the
blanks at its ends that `cuts` cuts at. -/
def readWords (cuts : Char → Bool) : Nat → Text → List Text
  | 0, _ => []
  | 1, line => [Text.trimBy (fun c => isBlank c && cuts c) line]
  | n + 1, line =>
    let line := line.dropWhile fun c => isBlank c && cuts c
    let word := line.takeWhile (! cuts ·)
    word :: readWords cuts n (line.drop (word.length + 1))

/-- A line without the backslashes that escape. -/
def unescapeLine : Text → Text
  | '\\' :: c :: rest => c :: unescapeLine rest
  | c :: rest => c :: unescapeLine rest
  | [] => []

/-- Reads a line into variables. -/
def readVariables (words : List Text) (s : State) : Flow × State :=
  let plain := words.head? == some (Text.ofString "-r")
  let names := if plain then words.drop 1 else words
  let (octets, whole, session) := s.session.readLine s.source
  let line := Utf8.decodeLossy octets
  let line := if plain then line else unescapeLine line
  let values := readWords s.cuts names.length line
  let s := (names.zip values).foldl (fun s (name, value) => s.assign name value)
    { s with session := session }
  s.withStatus (if whole then 0 else 1)

/-- Shows variables to programs; words of the form `name=value` set them too. -/
def exportCommand (words : List Text) (s : State) : Flow × State :=
  let s := words.foldl (fun s word =>
    match Text.cut '=' word with
    | some (name, value) => { s.assign name value with exports := name :: s.exports }
    | none => { s with exports := word :: s.exports }) s
  s.withStatus 0

/-- Forgets variables, or functions if that is asked for. -/
def unsetCommand (words : List Text) (s : State) : Flow × State :=
  match words with
  | ['-', 'f'] :: names =>
    { s with functions := s.functions.filter fun f => ! names.contains f.1 }.withStatus 0
  | names => { s with settings := s.settings.filter fun v => ! names.contains v.1 }.withStatus 0

/-- Sets the arguments of the shell, and whether it ends at the first failure. -/
def setCommand (words : List Text) (s : State) : Flow × State :=
  match words with
  | ['-', '-'] :: rest => { s with arguments := rest }.withStatus 0
  | ('-' :: options) :: _ => { s with strict := s.strict || options.contains 'e' }.withStatus 0
  | ('+' :: options) :: _ => { s with strict := s.strict && ! options.contains 'e' }.withStatus 0
  | [] => s.withStatus 0
  | words => { s with arguments := words }.withStatus 0

/-- Drops arguments of the shell. -/
def shiftCommand (words : List Text) (s : State) : Flow × State :=
  let count := ((words.head?.bind whole?).getD 1).toNat
  if s.arguments.length < count then
    (.exited, { s.complain "shift: can't shift that many" with status := 2 })
  else { s with arguments := s.arguments.drop count }.withStatus 0

/-- Changes the directory. -/
def changeDirectory (words : List Text) (s : State) : Flow × State :=
  let path := words.headD "/"
  match s.session.files.locate s.session.directory ⟨path⟩ with
  | .ok at_ =>
    if s.session.files.node? at_ = some .directory then
      { s with session := { s.session with directory := at_ } }.withStatus 0
    else s.failWith 2 ("cd: can't cd to " ++ path)
  | .error _ => s.failWith 2 ("cd: can't cd to " ++ path)

/-- Sets what happens on signals. -/
def trapCommand (words : List Text) (s : State) : Flow × State :=
  match words with
  | action :: first :: rest =>
    let names := (first :: rest).map trapName
    let kept := s.traps.filter fun trap => ! names.contains trap.1
    let added := if action = "-" then [] else names.map fun name => (name, action)
    { s with traps := added ++ kept }.withStatus 0
  | _ => s.withStatus 0

/-- The status that an argument asks for, if it is one. -/
def statusOf? (word : Text) : Option Nat :=
  match Numeral.readInt 32 (word.dropWhile isBlank) with
  | .ok (.ofNat n) => some (n % 256)
  | _ => none

/-- Leaves a function, or the shell. -/
def leaveCommand (name : Text) (flow : Flow) (words : List Text) (s : State) : Flow × State :=
  match words with
  | [] => (flow, s)
  | word :: _ =>
    match statusOf? word with
    | some status => (flow, { s with status := status })
    | none => (.exited, { s.complain (name ++ ": Illegal number: " ++ word) with status := 2 })

/-- The commands whose failures end the shell. -/
def specialNames : List Text :=
  [":", ".", "break", "continue", "eval", "exec", "exit", "export", "readonly", "return", "set",
    "shift", "trap", "unset"]

/-- A command that the shell performs by itself. -/
def builtin? (name : Text) (words : List Text) : Option Action :=
  if name = ":" || name = "true" then some (·.withStatus 0)
  else if name = "false" then some (·.withStatus 1)
  else if name = "echo" then some (printCommand name (shellEcho words))
  else if name = "printf" then
    match words with
    | [] => some (·.failWith 2 "printf: usage: printf format [arg ...]")
    | format :: arguments =>
      some (printCommand name (printf format arguments (arguments.length + 1)))
  else if name = "test" then some (testCommand name words)
  else if name = "[" then
    if words.getLast? == some [']'] then some (testCommand name words.dropLast)
    else some (·.failWith 2 "[: missing ]")
  else if name = "read" then
    if (words.filter (· != Text.ofString "-r")).isEmpty then some (·.failWith 2 "read: arg count")
    else some (readVariables words)
  else if name = "export" || name = "readonly" then some (exportCommand words)
  else if name = "local" then some fun s =>
    exportCommand (words.filter (·.contains '=')) s
  else if name = "unset" then some (unsetCommand words)
  else if name = "set" then some (setCommand words)
  else if name = "shift" then some (shiftCommand words)
  else if name = "cd" then some (changeDirectory words)
  else if name = "pwd" then some fun s =>
    printCommand name (Utf8.encode ((FileTree.pathOf s.session.directory).text ++ "\n")) s
  else if name = "umask" then some (·.withStatus 0)
  else if name = "trap" then some (trapCommand words)
  else if name = "exit" then some (leaveCommand name .exited words)
  else if name = "return" then some (leaveCommand name .returned words)
  else if name = "break" then some fun s => (.leave false, { s with status := 0 })
  else if name = "continue" then some fun s => (.leave true, { s with status := 0 })
  else none

end ShareAgent.Machine.Shell
