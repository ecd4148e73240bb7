import ShareAgent.Machine.Shell.State
import ShareAgent.Machine.Shell.Sum
import ShareAgent.Machine.Shell.Token

/-! # Expanding words

A word becomes a number of fields: parameters, sums and outputs of scripts take their values, and
what they put outside quotes is cut at blanks. -/
namespace ShareAgent.Machine.Shell

/-- A piece of an expanded word. -/
inductive Piece
  | char (char : Char) (quoted : Bool)
  /-- Quotes, which make a field even if nothing stands in them. -/
  | quotes
  /-- The end of a field, whatever comes next. -/
  | cut
  deriving DecidableEq, Repr

/-- The number of the process that runs the script. -/
def processId : Nat := 4242

/-- The number of the process in the background. -/
def besideId : Nat := processId + 1

/-- The value of a parameter that is set. -/
def State.parameter? (s : State) (name : Text) : Option Text :=
  if name = "#" then some (Text.ofNat s.arguments.length)
  else if name = "?" then some (Text.ofNat s.status)
  else if name = "$" then some (Text.ofNat processId)
  else if name = "!" then s.besideStatus.map fun _ => Text.ofNat besideId
  else if name = "-" then some (if s.strict then "e" else [])
  else if name = "@" || name = "*" then
    if s.arguments.isEmpty then none else some (Text.join " " s.arguments)
  else if name = "0" then some s.name
  else if name.all Char.isDigit then
    match Numeral.readWord 32 name with
    | .ok (n + 1) => s.arguments[n]?
    | _ => none
  else s.value? name

/-- The number of digits and letters, or the mark, that a parameter's name takes up. -/
def nameLength (t : Text) : Nat :=
  match t.takeWhile isNameChar with
  | [] => 1
  | name => name.length

/-- The value of a parameter with what its braces ask for: its length, or a value in place of one
that is missing. -/
def State.parameter (s : State) (t : Text) : Text :=
  match t with
  | '#' :: c :: rest => Text.ofNat ((s.parameter? (c :: rest)).getD []).length
  | _ =>
    let name := t.take (nameLength t)
    let value := s.parameter? name
    match t.drop name.length with
    | ':' :: '-' :: other => if value.getD [] = [] then other else value.getD []
    | '-' :: other => value.getD other
    | ':' :: '+' :: other => if value.getD [] = [] then [] else other
    | '+' :: other => if value.isSome then other else []
    | _ => value.getD []

/-- The number that a name stands for in a sum. -/
def State.number (s : State) (name : Text) : Int :=
  match Numeral.readInt 64 ((s.parameter? name).getD []) with
  | .ok n => n
  | .error _ => 0

/-- Text as pieces. -/
def pieces (quoted : Bool) (t : Text) : List Piece := t.map (.char · quoted)

/-- Text without the line feeds at its end. -/
def dropFeeds (t : Text) : Text := (t.reverse.dropWhile (· == '\n')).reverse

/-- How the output of a script is found out. -/
abbrev Capture := Text → State → Bytes × State

/-- The pieces of a part. -/
def expandPart (capture : Capture) (s : State) : Part → List Piece × State
  | .literal [] true => ([.quotes], s)
  | .literal text quoted => (pieces quoted text, s)
  | .parameter name quoted =>
    if name = "@" && quoted then
      let words := s.arguments.map fun word => .quotes :: pieces true word
      ((words.intersperse [.cut]).flatten, s)
    else (pieces quoted (s.parameter name), s)
  | .sum expression quoted =>
    let value := (sum? s.number expression).getD 0
    (pieces quoted (Text.ofInt value), s)
  | .output script quoted =>
    let (octets, s) := capture script s
    (pieces quoted (dropFeeds (Utf8.decodeLossy octets)), s)

/-- The pieces of a word. -/
def expandParts (capture : Capture) (s : State) : Word → List Piece × State
  | [] => ([], s)
  | part :: rest =>
    let (front, s) := expandPart capture s part
    let (back, s) := expandParts capture s rest
    (front ++ back, s)

/-- A blank between words. -/
def isBlank (c : Char) : Bool := c == ' ' || c == '\t' || c == '\n'

/-- The fields that pieces make, after the one under way. A blank that `cuts` ends the field under
way; any other character that does so ends a field in every case. -/
def fields (cuts : Char → Bool) : Option Text → List Piece → List Text
  | none, [] => []
  | some field, [] => [field.reverse]
  | field, .quotes :: rest => fields cuts (some (field.getD [])) rest
  | field, .cut :: rest =>
    match field with
    | none => fields cuts none rest
    | some field => field.reverse :: fields cuts none rest
  | field, .char c quoted :: rest =>
    if ! quoted && cuts c then
      match field with
      | none => if isBlank c then fields cuts none rest else [] :: fields cuts none rest
      | some field => field.reverse :: fields cuts none rest
    else fields cuts (some (c :: field.getD [])) rest

/-- A word that quotes nothing but all arguments makes as many fields as there are. -/
def dropEmptyQuotes : Word → Word
  | [.literal [] true, .parameter ['@'] true] => [.parameter "@" true]
  | word => word

/-- The fields of a word. -/
def expandWord (capture : Capture) (s : State) (word : Word) : List Text × State :=
  let (pieces, s) := expandParts capture s (dropEmptyQuotes word)
  (fields s.cuts none pieces, s)

/-- The fields of words. -/
def expandWords (capture : Capture) (s : State) : List Word → List Text × State
  | [] => ([], s)
  | word :: rest =>
    let (front, s) := expandWord capture s word
    let (back, s) := expandWords capture s rest
    (front ++ back, s)

/-- The text of a word that is not cut. -/
def expandText (capture : Capture) (s : State) (word : Word) : Text × State :=
  let (pieces, s) := expandParts capture s word
  (pieces.filterMap fun
    | .char c _ => some c
    | _ => none, s)

/-- The tails of a text, longest first. -/
def tails : Text → List Text
  | [] => [[]]
  | c :: rest => (c :: rest) :: tails rest

/-- A text fits a pattern, in which an unquoted star stands for any text and a question mark for any
character. -/
def fits : List Piece → Text → Bool
  | [], t => t.isEmpty
  | .char '*' false :: rest, t => (tails t).any (fits rest ·)
  | .char '?' false :: rest, t =>
    match t with
    | [] => false
    | _ :: t => fits rest t
  | .char c _ :: rest, t =>
    match t with
    | [] => false
    | d :: t => c == d && fits rest t
  | _ :: rest, t => fits rest t

/-- The name and the value of a word that assigns one. -/
def assignment? (word : Word) : Option (Text × Word) :=
  go [] word
where
  /-- Goes on after a part of the name. -/
  go (name : Text) : Word → Option (Text × Word)
    | .literal ['='] false :: value =>
      match name with
      | [] => none
      | name => some (name.reverse, value)
    | .literal [c] false :: rest =>
      if isNameChar c && (name != [] || ! c.isDigit) then go (c :: name) rest else none
    | _ => none

end ShareAgent.Machine.Shell
