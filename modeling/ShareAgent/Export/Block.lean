import ShareAgent.Export.Entry
import ShareAgent.Text.Numeral

/-! # Reading an export block

A block is a list of statements `key = value`, each ended by a semicolon, a brace or the end of its
line. A number sign begins a comment that runs to the end of the line. Keys may be written in any
case, values between quotation marks. -/
namespace ShareAgent.Export

/-- The character that begins a comment. -/
def commentMark : Char := '#'

/-- A line up to its comment. -/
def code (line : Text) : Text := line.takeWhile (· != commentMark)

/-- The characters that end a statement within a line. -/
def endsStatement (c : Char) : Bool := c == ';' || c == '\x7b' || c == '\x7d'

/-- The statements of a block. -/
def statements (block : Text) : List Text :=
  (Text.lines block).flatMap fun line => Text.pieces endsStatement (code line)

/-- A value without the blanks and the quotation marks around it. -/
def value (written : Text) : Text := Text.trimQuotes (Text.trim written)

/-- The values that a block gives; each may be missing. -/
structure Fields where
  id : Option UInt16
  path : Option Path
  pseudo : Option Text
  deriving DecidableEq, Repr

namespace Fields

/-- No values. -/
def none : Fields := ⟨.none, .none, .none⟩

/-- Sets the value of a key. A number that is none takes the former one away. -/
def set (f : Fields) (key written : Text) : Fields :=
  if key = "export_id" then
    { f with id := (Numeral.readWord 16 written).toOption.map .ofNat }
  else if key = "path" then { f with path := some ⟨written⟩ }
  else if key = "pseudo" then { f with pseudo := some written }
  else f

/-- Takes one statement; a later one replaces an earlier one. -/
def add (f : Fields) (statement : Text) : Fields :=
  match Text.cut '=' statement with
  | .none => f
  | some (key, written) => f.set (Text.lowerAscii (Text.trim key)) (value written)

/-- The entry of a block with a number and a path; the name may be missing. -/
def complete? : Fields → Option Entry
  | ⟨some id, some path, pseudo⟩ => some ⟨id, path, pseudo.getD []⟩
  | _ => .none

end Fields

/-- The entry of a block, if the block is complete. -/
def readBlock (block : Text) : Option Entry :=
  ((statements block).foldl Fields.add .none).complete?

end ShareAgent.Export
