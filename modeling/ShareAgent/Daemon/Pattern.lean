import ShareAgent.Text.Blank
import ShareAgent.Text.Letter

/-! # Patterns

The regular expressions that a filter compares values with. A pattern runs as an automaton over
text, so it cannot ask for word boundaries, which depend on all of Unicode, or for octets that are
no text. Only whether a text is a pattern is told here. -/
namespace ShareAgent.Daemon.Pattern

/-- How a part of a pattern is read: whether its sets are those of Unicode, and whether blanks and
remarks may stand between its signs. -/
structure Mode where
  unicode : Bool
  spaced : Bool
  deriving DecidableEq, Repr

/-- What a sign stands for: one character, a set of characters, or a place between two. -/
inductive Sign
  | character (code : Nat)
  | set
  | place
  deriving DecidableEq, Repr

/-- Drops blanks and remarks. A remark goes up to the end of its line. -/
def dropRemarks (inRemark : Bool) : Text → Text
  | [] => []
  | c :: rest =>
    if inRemark then dropRemarks (c != '\n') rest
    else if isBlank c then dropRemarks false rest
    else if c = '#' then dropRemarks true rest
    else c :: rest

/-- Drops what may stand between signs. -/
def Mode.skip (m : Mode) (t : Text) : Text := if m.spaced then dropRemarks false t else t

/-- The character has a meaning of its own in patterns. -/
def isSpecial (c : Char) : Bool :=
  Text.ofString "\\.+*?()|[]\x7b\x7d^$#&-~" |>.contains c

/-- The character can be escaped to stand for itself. Letters and digits are kept for other signs,
and so are the marks of word boundaries. -/
def isEscapable (c : Char) : Bool :=
  isSpecial c || (c.toNat < 0x80 && ! c.isAlphanum && c != '<' && c != '>')

/-- The code point is that of a character. -/
def isCharacter (code : Nat) : Bool := code < 0xD800 || (0xDFFF < code && code < 0x110000)

/-- The value of a hexadecimal digit. -/
def hexDigit? (c : Char) : Option Nat :=
  if c.isDigit then some (c.toNat - 48)
  else if 'a' ≤ c && c ≤ 'f' then some (c.toNat - 87)
  else if 'A' ≤ c && c ≤ 'F' then some (c.toNat - 55)
  else none

/-- The code point of a number of hexadecimal digits, after a first part of its value. -/
def readCode (m : Mode) : Nat → Nat → Text → Option (Nat × Text)
  | 0, value, t => if isCharacter value then some (value, t) else none
  | n + 1, value, t =>
    match m.skip t with
    | [] => none
    | c :: rest => (hexDigit? c).bind fun digit => readCode m n (16 * value + digit) rest

/-- The letters that name a class of characters. -/
def classLetters : List Char := ['c', 'l', 'm', 'n', 'p', 's', 'z']

/-- The sign after a backslash. -/
def readEscape (m : Mode) : Text → Option (Sign × Text)
  | [] => none
  | c :: rest =>
    if c = 'x' then
      (readCode m 2 0 rest).bind fun (code, rest) =>
        if m.unicode || code < 0x80 then some (.character code, rest) else none
    else if c = 'u' then (readCode m 4 0 rest).map fun (code, rest) => (.character code, rest)
    else if c = 'U' then (readCode m 8 0 rest).map fun (code, rest) => (.character code, rest)
    else if c = 'p' || c = 'P' then
      match m.skip rest with
      | [] => none
      | name :: rest =>
        if m.unicode && classLetters.contains name.toLower then some (.set, rest) else none
    else if c = 'd' || c = 's' || c = 'w' then some (.set, rest)
    else if c = 'D' || c = 'S' || c = 'W' then if m.unicode then some (.set, rest) else none
    else if c = 'A' || c = 'z' then some (.place, rest)
    else if c = 'b' || c = 'B' || c = '<' || c = '>' then
      if m.unicode then none else some (.place, rest)
    else if c = 'a' then some (.character 7, rest)
    else if c = 'f' then some (.character 12, rest)
    else if c = 't' then some (.character 9, rest)
    else if c = 'n' then some (.character 10, rest)
    else if c = 'r' then some (.character 13, rest)
    else if c = 'v' then some (.character 11, rest)
    else if isEscapable c then some (.character c.toNat, rest)
    else none

/-- A character or a set inside of a set. -/
def readMember (m : Mode) : Text → Option (Sign × Text)
  | [] => none
  | '\\' :: rest =>
    (readEscape m rest).bind fun (sign, rest) =>
      match sign with
      | .place => none
      | .set => some (.set, rest)
      | .character code =>
        if m.unicode || code < 0x80 then some (.character code, rest) else none
  | c :: rest => if m.unicode || c.toNat < 0x80 then some (.character c.toNat, rest) else none

/-- A member of a set or a range of them, which must not be empty. -/
def readRange (m : Mode) (t : Text) : Option Text :=
  (readMember m t).bind fun (first, rest) =>
    match m.skip rest with
    | '-' :: rest =>
      match m.skip rest with
      | [] => none
      | ']' :: _ => some ('-' :: rest)
      | '-' :: _ => some ('-' :: rest)
      | last =>
        (readMember m last).bind fun (last, rest) =>
          match first, last with
          | .character a, .character b => if a ≤ b then some rest else none
          | _, _ => none
    | rest => some rest

/-- Hyphens at the beginning of a set stand for themselves. -/
def dropHyphens (m : Mode) : Nat → Text → Text
  | 0, t => t
  | n + 1, t =>
    match m.skip t with
    | '-' :: rest => dropHyphens m n rest
    | rest => rest

/-- The beginning of a set, after its bracket. A bracket that closes stands for itself there. The
complement of a set is open only to Unicode. -/
def openSet (m : Mode) (t : Text) : Option Text :=
  let negated := (m.skip t).head? == some '^'
  if negated && ! m.unicode then none
  else
    let t := if negated then m.skip ((m.skip t).drop 1) else m.skip t
    match t with
    | ']' :: rest => some rest
    | t => some (dropHyphens m t.length t)

/-- The rest of a set inside of `depth` others. -/
def readSet (m : Mode) : Nat → Nat → Text → Option Text
  | 0, _, _ => none
  | n + 1, depth, t =>
    match m.skip t with
    | [] => none
    | '[' :: rest => (openSet m rest).bind (readSet m n (depth + 1))
    | ']' :: rest =>
      match depth with
      | 0 => some rest
      | depth + 1 => readSet m n depth rest
    | '&' :: '&' :: rest => readSet m n depth rest
    | '-' :: '-' :: rest => readSet m n depth rest
    | '~' :: '~' :: rest => readSet m n depth rest
    | t => (readRange m t).bind (readSet m n depth)

/-- The flags of a group: the mode after them, whether there are any, whether they stand alone, and
what is left. -/
def readFlags (seen : Text) (negated : Bool) (m : Mode) : Text → Option (Mode × Bool × Bool × Text)
  | [] => none
  | ':' :: rest => if seen.head? == some '-' then none else some (m, seen != [], false, rest)
  | ')' :: rest => if seen.head? == some '-' then none else some (m, seen != [], true, rest)
  | c :: rest =>
    if seen.contains c || ! (Text.ofString "imsURux-").contains c then none
    else
      let m := if c = 'u' then { m with unicode := ! negated }
        else if c = 'x' then { m with spaced := ! negated }
        else m
      readFlags (c :: seen) (negated || c == '-') m rest

/-- The name of a group up to its closing mark. -/
def readName (t : Text) : Option (Text × Text) :=
  let name := t.takeWhile (· != '>')
  let isPart (c : Char) := c == '_' || c == '.' || c == '[' || c == ']' || isLetterOrNumeral c
  match name, t.drop name.length with
  | c :: others, _ :: rest =>
    if (c == '_' || isLetter c) && others.all isPart then some (name, rest) else none
  | _, _ => none

/-- How a parenthesis begins. -/
inductive Opening
  /-- A group, perhaps with a name, whose parts are read in this mode. -/
  | group (m : Mode) (name : Option Text)
  /-- A mode for all that follows. -/
  | switch (m : Mode)

/-- What follows a parenthesis that opens. Looking ahead or back is not possible. -/
def readOpening (m : Mode) (t : Text) : Option (Opening × Text) :=
  match m.skip t with
  | '?' :: 'P' :: '<' :: rest =>
    (readName rest).map fun (name, rest) => (.group m (some name), rest)
  | '?' :: '<' :: rest => (readName rest).map fun (name, rest) => (.group m (some name), rest)
  | '?' :: rest =>
    (readFlags [] false m rest).bind fun (m, any, alone, rest) =>
      if ! alone then some (.group m none, rest)
      else if any then some (.switch m, rest)
      else none
  | rest => some (.group m none, rest)

/-- What was read so far: the mode, the modes around the open groups, whether something stands
before that can be repeated, and the names of groups. -/
structure Reading where
  mode : Mode
  around : List Mode
  repeatable : Bool
  names : List Text

/-- Reads one sign or more. -/
def Reading.next (r : Reading) : Text → Option (Reading × Text)
  | [] => none
  | c :: rest =>
    let filled := { r with repeatable := true }
    if c = '(' then
      (readOpening r.mode rest).bind fun
        | (.switch m, rest) => some ({ r with mode := m, repeatable := false }, rest)
        | (.group m name, rest) =>
          if name.any r.names.contains then none
          else some (⟨m, r.mode :: r.around, false, name.toList ++ r.names⟩, rest)
    else if c = ')' then
      match r.around with
      | [] => none
      | m :: around => some ({ filled with mode := m, around := around }, rest)
    else if c = '|' then some ({ r with repeatable := false }, rest)
    else if c = '[' then
      ((openSet r.mode rest).bind (readSet r.mode (rest.length + 1) 0)).map fun rest =>
        (filled, rest)
    else if c = '?' || c = '*' || c = '+' then if r.repeatable then some (filled, rest) else none
    else if c = '\x7b' then none
    else if c = '\\' then (readEscape r.mode rest).map fun (_, rest) => (filled, rest)
    else if c = '.' then if r.mode.unicode then some (filled, rest) else none
    else some (filled, rest)

/-- Reads the rest of a pattern. -/
def Reading.toEnd : Nat → Reading → Text → Bool
  | 0, _, _ => false
  | n + 1, r, t =>
    match r.mode.skip t with
    | [] => r.around.isEmpty
    | t =>
      match r.next t with
      | none => false
      | some (r, rest) => toEnd n r rest

end ShareAgent.Daemon.Pattern

namespace ShareAgent.Daemon

/-- The text is a pattern. Counted repetition has braces, which have another meaning in filters, so
it is not part of patterns. -/
def isPattern (t : Text) : Bool :=
  Pattern.Reading.toEnd (t.length + 1) ⟨⟨true, false⟩, [], false, []⟩ t

example : isPattern "a|(b*)[^]x-z\\d]+?" = true := by decide
example : isPattern "(" = false := by decide
example : isPattern "[z-a]" = false := by decide
example : isPattern "\\b" = false := by decide

end ShareAgent.Daemon
