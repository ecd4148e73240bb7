import ShareAgent.Machine.Shell.Token

/-! # Reading a shell script -/
namespace ShareAgent.Machine.Shell

/-- The reserved word that a token is. -/
def reserved? : Token → Option Text
  | .word _ word => bare? word
  | _ => none

/-- The token is a reserved word. -/
def isReserved (word : Text) (t : Token) : Bool := reserved? t == some word

/-- The words that end a list of commands. -/
def closers : List Text := ["then", "elif", "else", "fi", "do", "done", "esac", "\x7d"]

/-- The token ends a list of commands. -/
def endsList (t : Token) : Bool :=
  t == .mark ")" || t == .mark ";;" || match reserved? t with
    | some word => closers.contains word
    | none => false

/-- Drops line breaks. -/
def dropBreaks (ts : List Token) : List Token := ts.dropWhile (· == .mark ['\n'])

/-- Expects a reserved word. -/
def expect (word : Text) : List Token → Option (List Token)
  | t :: rest => if isReserved word t then some rest else none
  | [] => none

/-- The words and redirections of a simple command, and what stands after it. -/
def simpleParts : List Token → Option (Nat × List Word × List Redirect × List Token)
  | .redirect channel kind :: .word line target :: rest =>
    (simpleParts rest).map fun (_, words, redirects, rest) =>
      (line, words, ⟨channel, kind, target⟩ :: redirects, rest)
  | .redirect .. :: _ => none
  | .word line word :: rest =>
    (simpleParts rest).map fun (_, words, redirects, rest) =>
      (line, word :: words, redirects, rest)
  | rest => some (1, [], [], rest)

/-- The redirections after a compound command. -/
def trailing : List Token → List Redirect × List Token
  | .redirect channel kind :: .word _ target :: rest =>
    let (redirects, rest) := trailing rest
    (⟨channel, kind, target⟩ :: redirects, rest)
  | rest => ([], rest)

/-- The patterns of a branch, and what stands after the parenthesis that ends them. -/
def readPatterns : List Token → Option (List Word × List Token)
  | .word _ word :: .mark mark :: rest =>
    if mark == ['|'] then (readPatterns rest).map fun (words, rest) => (word :: words, rest)
    else if mark == [')'] then some ([word], rest)
    else none
  | _ => none

mutual

/-- A list of commands up to its end or a word that ends it. -/
def readList : Nat → List Token → Option (Script × List Token)
  | 0, _ => none
  | n + 1, ts =>
    match ts.dropWhile fun t => t == .mark ['\n'] || t == .mark ";" with
    | [] => some (.skip, [])
    | t :: rest =>
      if endsList t then some (.skip, t :: rest)
      else match readChain n (t :: rest) with
        | none => none
        | some (first, rest) =>
          match rest with
          | .mark mark :: rest' =>
            if mark == [';'] || mark == ['\n'] then
              (readList n rest').map fun (second, rest) => (.sequence first second, rest)
            else if mark == ['&'] then
              (readList n rest').map fun (second, rest) =>
                (.sequence (.background first) second, rest)
            else some (first, rest)
          | rest => some (first, rest)

/-- Pipelines joined by `&&` and `||`. -/
def readChain : Nat → List Token → Option (Script × List Token)
  | 0, _ => none
  | n + 1, ts =>
    match readPipeline n ts with
    | none => none
    | some (first, rest) => chainFrom n first rest

/-- Goes on with a chain. -/
def chainFrom : Nat → Script → List Token → Option (Script × List Token)
  | 0, _, _ => none
  | n + 1, first, .mark mark :: rest =>
    if mark == ['&', '&'] || mark == ['|', '|'] then
      match readPipeline n (dropBreaks rest) with
      | none => none
      | some (second, rest) =>
        chainFrom n (if mark == ['&', '&'] then .both first second else .either first second) rest
    else some (first, .mark mark :: rest)
  | _, first, rest => some (first, rest)

/-- Commands joined by `|`. -/
def readPipeline : Nat → List Token → Option (Script × List Token)
  | 0, _ => none
  | n + 1, ts =>
    match ts with
    | [] => none
    | t :: rest =>
      if isReserved "!" t then
        (readPipeline n rest).map fun (body, rest) => (.negated body, rest)
      else match readCommand n ts with
        | none => none
        | some (first, rest) =>
          match rest with
          | .mark ['|'] :: rest =>
            (readPipeline n (dropBreaks rest)).map fun (second, rest) => (.pipe first second, rest)
          | rest => some (first, rest)

/-- One command. -/
def readCommand : Nat → List Token → Option (Script × List Token)
  | 0, _ => none
  | n + 1, ts =>
    match ts with
    | [] => none
    | .mark mark :: rest =>
      if mark == ['('] then do
        let (body, rest) ← readList n rest
        match rest with
        | .mark [')'] :: rest =>
          let (redirects, rest) := trailing rest
          some (.inner body redirects, rest)
        | _ => none
      else none
    | t :: rest =>
      if isReserved "\x7b" t then do
        let (body, rest) ← readList n rest
        let rest ← expect "\x7d" rest
        let (redirects, rest) := trailing rest
        some (.group body redirects, rest)
      else if isReserved "while" t || isReserved "until" t then do
        let (condition, rest) ← readList n rest
        let rest ← expect "do" rest
        let (body, rest) ← readList n rest
        let rest ← expect "done" rest
        let (redirects, rest) := trailing rest
        some (.group (.loop (isReserved "while" t) condition body) redirects, rest)
      else if isReserved "if" t then do
        let (script, rest) ← readBranch n rest
        let (redirects, rest) := trailing rest
        some (.group script redirects, rest)
      else if isReserved "for" t then do
        match rest with
        | .word _ name :: keyword :: rest =>
          let name ← bare? name
          let (words, rest) ←
            if isReserved "in" keyword then
              let (_, words, _, rest) ← simpleParts rest
              some (words, rest)
            else some ([[.parameter "@" true]], keyword :: rest)
          let rest := rest.dropWhile fun t => t == .mark ['\n'] || t == .mark ";"
          let rest ← expect "do" rest
          let (body, rest) ← readList n rest
          let rest ← expect "done" rest
          let (redirects, rest) := trailing rest
          some (.group (.each name words body) redirects, rest)
        | _ => none
      else if isReserved "case" t then do
        match rest with
        | .word _ subject :: keyword :: rest =>
          let (script, rest) ← readBranches n subject (← expect "in" (keyword :: rest))
          let (redirects, rest) := trailing rest
          some (.group script redirects, rest)
        | _ => none
      else if rest.take 2 == [.mark "(", .mark ")"] then do
        let name ← reserved? t
        let (body, rest) ← readCommand n (dropBreaks (rest.drop 2))
        some (.define name body, rest)
      else do
        let (line, words, redirects, rest) ← simpleParts ts
        if words.isEmpty && redirects.isEmpty then none
        else some (.simple line words redirects, rest)

/-- A condition with its branches, after `if` or `elif`. -/
def readBranch : Nat → List Token → Option (Script × List Token)
  | 0, _ => none
  | n + 1, ts => do
    let (condition, rest) ← readList n ts
    let rest ← expect "then" rest
    let (yes, rest) ← readList n rest
    match rest with
    | [] => none
    | t :: rest =>
      if isReserved "fi" t then some (.branch condition yes .skip, rest)
      else if isReserved "else" t then
        let (no, rest) ← readList n rest
        let rest ← expect "fi" rest
        some (.branch condition yes no, rest)
      else if isReserved "elif" t then
        let (no, rest) ← readBranch n rest
        some (.branch condition yes no, rest)
      else none

/-- The branches for a subject, up to the word that ends them. -/
def readBranches : Nat → Word → List Token → Option (Script × List Token)
  | 0, _, _ => none
  | n + 1, subject, ts =>
    match dropBreaks ts with
    | [] => none
    | t :: rest =>
      if isReserved "esac" t then some (.skip, rest)
      else do
        let (patterns, rest) ← readPatterns (if t == .mark "(" then rest else t :: rest)
        let (body, rest) ← readList n rest
        match dropBreaks rest with
        | .mark [';', ';'] :: rest =>
          let (otherwise, rest) ← readBranches n subject rest
          some (.choice subject patterns body otherwise, rest)
        | rest =>
          let rest ← expect "esac" rest
          some (.choice subject patterns body .skip, rest)

end

/-- A token as complaints show it. -/
def Token.shown : Token → Text
  | mark text => if text = ['\n'] then "newline" else "\"" ++ text ++ "\""
  | word _ parts => "\"" ++ (bare? parts).getD "word" ++ "\""
  | redirect .. => "redirection"

/-- The script that a text is, or what the shell complains about. -/
def Script.read (text : Text) : Except Text Script :=
  match Token.ofScript text with
  | none => .error "Syntax error: Unterminated quoted string"
  | some ts =>
    match readList (8 * ts.length + 8) ts with
    | some (script, []) => .ok script
    | some (_, t :: _) => .error ("Syntax error: " ++ t.shown ++ " unexpected")
    | none => .error "Syntax error: end of file unexpected"

end ShareAgent.Machine.Shell
