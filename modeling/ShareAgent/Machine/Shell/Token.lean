import ShareAgent.Machine.Shell.Script

/-! # Tokens of a shell script -/
namespace ShareAgent.Machine.Shell

/-- A token: a word with its line, an operator, or the beginning of a redirection. -/
inductive Token
  | word (line : Nat) (word : Word)
  | mark (mark : Text)
  | redirect (channel : Nat) (kind : RedirectKind)
  deriving DecidableEq, Repr

/-- A character of a name. -/
def isNameChar (c : Char) : Bool := c.isAlphanum || c == '_'

/-- What stands before the parenthesis that closes `depth + 1` open ones, and what after. -/
def closing (depth : Nat) : Text → Option (Text × Text)
  | [] => none
  | ')' :: rest =>
    match depth with
    | 0 => some ([], rest)
    | depth + 1 => (closing depth rest).map fun (front, back) => (')' :: front, back)
  | '(' :: rest => (closing (depth + 1) rest).map fun (front, back) => ('(' :: front, back)
  | c :: rest => (closing depth rest).map fun (front, back) => (c :: front, back)

/-- What stands before the next `mark`, and what after. -/
def upTo (mark : Char) : Text → Option (Text × Text)
  | [] => none
  | c :: rest =>
    if c = mark then some ([], rest)
    else (upTo mark rest).map fun (front, back) => (c :: front, back)

/-- The part that a dollar sign begins; the text after the sign is given. -/
def expansion (quoted : Bool) (text : Text) : Part × Text :=
  match text with
  | '(' :: '(' :: rest =>
    match closing 1 rest with
    | some (front, back) => (.sum front.dropLast quoted, back)
    | none => (.literal "$" quoted, text)
  | '(' :: rest =>
    match closing 0 rest with
    | some (front, back) => (.output front quoted, back)
    | none => (.literal "$" quoted, text)
  | '\x7b' :: rest =>
    match upTo '\x7d' rest with
    | some (front, back) => (.parameter front quoted, back)
    | none => (.literal "$" quoted, text)
  | c :: rest =>
    if c.isDigit || c == '@' || c == '*' || c == '#' || c == '?' || c == '$' || c == '!' ||
        c == '-' then
      (.parameter [c] quoted, rest)
    else if isNameChar c then
      (.parameter (text.takeWhile isNameChar) quoted, text.dropWhile isNameChar)
    else (.literal "$" quoted, text)
  | [] => (.literal "$" quoted, [])

/-- The rest of a word between double quotes, and what stands after it. -/
def doubleQuoted : Nat → Text → Option (Word × Text)
  | 0, _ => none
  | _, [] => none
  | _, '"' :: rest => some ([], rest)
  | n + 1, '\\' :: c :: rest =>
    (doubleQuoted n rest).map fun (word, back) =>
      if c == '\n' then (word, back)
      else if c == '$' || c == '\x60' || c == '"' || c == '\\' then
        (.literal [c] true :: word, back)
      else (.literal ['\\', c] true :: word, back)
  | n + 1, '$' :: rest =>
    let (part, back) := expansion true rest
    (doubleQuoted n back).map fun (word, back) => (part :: word, back)
  | n + 1, '\x60' :: rest =>
    match upTo '\x60' rest with
    | none => none
    | some (script, back) =>
      (doubleQuoted n back).map fun (word, back) => (.output script true :: word, back)
  | n + 1, c :: rest =>
    (doubleQuoted n rest).map fun (word, back) => (.literal [c] true :: word, back)

/-- A character that ends a word outside quotes. -/
def endsWord (c : Char) : Bool :=
  c == ' ' || c == '\t' || c == '\n' || c == ';' || c == '&' || c == '|' || c == '<' || c == '>' ||
    c == '(' || c == ')'

/-- The rest of a word, and what stands after it. -/
def wordAt : Nat → Text → Option (Word × Text)
  | 0, _ => none
  | _, [] => some ([], [])
  | n + 1, '\'' :: rest =>
    match upTo '\'' rest with
    | none => none
    | some (front, back) =>
      (wordAt n back).map fun (word, back) => (.literal front true :: word, back)
  | n + 1, '"' :: rest =>
    match doubleQuoted (rest.length + 1) rest with
    | none => none
    | some (front, back) =>
      (wordAt n back).map fun (word, back) => (.literal [] true :: front ++ word, back)
  | n + 1, '\\' :: c :: rest =>
    (wordAt n rest).map fun (word, back) =>
      (if c == '\n' then word else .literal [c] true :: word, back)
  | n + 1, '$' :: rest =>
    let (part, back) := expansion false rest
    (wordAt n back).map fun (word, back) => (part :: word, back)
  | n + 1, '\x60' :: rest =>
    match upTo '\x60' rest with
    | none => none
    | some (script, back) =>
      (wordAt n back).map fun (word, back) => (.output script false :: word, back)
  | n + 1, c :: rest =>
    if endsWord c then some ([], c :: rest)
    else (wordAt n rest).map fun (word, back) => (.literal [c] false :: word, back)

/-- The unquoted text of a word that consists of nothing else. -/
def bare? : Word → Option Text
  | [] => some []
  | .literal text false :: rest => (bare? rest).map (text ++ ·)
  | _ => none

/-- A redirection operator, with the channel it leads by default, and what stands after it. -/
def redirection? : Text → Option (Nat × RedirectKind × Text)
  | '>' :: '>' :: rest => some (1, .append, rest)
  | '>' :: '&' :: rest => some (1, .duplicate, rest)
  | '>' :: '|' :: rest => some (1, .write, rest)
  | '>' :: rest => some (1, .write, rest)
  | '<' :: '&' :: rest => some (0, .duplicate, rest)
  | '<' :: '>' :: rest => some (0, .read, rest)
  | '<' :: rest => some (0, .read, rest)
  | _ => none

/-- The number of line breaks in what was read. -/
def breaks (before after : Text) : Nat := before.count '\n' - after.count '\n'

/-- The tokens of a script from a line on. -/
def tokens : Nat → Nat → Text → Option (List Token)
  | 0, _, _ => none
  | _, _, [] => some []
  | n + 1, line, c :: rest =>
    if c == ' ' || c == '\t' then tokens n line rest
    else if c == '\n' then (tokens n (line + 1) rest).map (.mark ['\n'] :: ·)
    else if c == '#' then tokens n line (rest.dropWhile (· != '\n'))
    else match c, rest with
      | '\\', '\n' :: rest => tokens n (line + 1) rest
      | '&', '&' :: rest => (tokens n line rest).map (.mark "&&" :: ·)
      | '|', '|' :: rest => (tokens n line rest).map (.mark "||" :: ·)
      | ';', ';' :: rest => (tokens n line rest).map (.mark ";;" :: ·)
      | ';', _ => (tokens n line rest).map (.mark ";" :: ·)
      | '&', _ => (tokens n line rest).map (.mark "&" :: ·)
      | '|', _ => (tokens n line rest).map (.mark "|" :: ·)
      | '(', _ => (tokens n line rest).map (.mark "(" :: ·)
      | ')', _ => (tokens n line rest).map (.mark ")" :: ·)
      | _, _ =>
        match redirection? (c :: rest) with
        | some (channel, kind, rest) =>
          (tokens n line rest).map (.redirect channel kind :: ·)
        | none =>
          match c.isDigit, redirection? rest with
          | true, some (_, kind, rest) =>
            (tokens n line rest).map (.redirect (c.toNat - 48) kind :: ·)
          | _, _ =>
            match wordAt (rest.length + 2) (c :: rest) with
            | none => none
            | some (word, back) =>
              (tokens n (line + breaks (c :: rest) back) back).map (.word line word :: ·)

/-- The tokens of a script. -/
def Token.ofScript (script : Text) : Option (List Token) := tokens (script.length + 1) 1 script

end ShareAgent.Machine.Shell
