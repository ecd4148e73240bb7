import ShareAgent.Text.Numeral
import ShareAgent.Text.Utf8

/-! # Escaped fields

In the mount table a blank would end a field, so four octets are written as a backslash and three
octal digits. Reading is more liberal than writing: any octet may be escaped, and a backslash that
no numeral follows stands for itself. -/
namespace ShareAgent.Mount

/-- The octets that writing escapes: space, tab, line feed and backslash. -/
def isEscaped (octet : UInt8) : Bool :=
  octet == 0x20 || octet == 0x09 || octet == 0x0A || octet == 0x5C

/-- Writes one octet. -/
def escapeOctet (octet : UInt8) : Bytes :=
  if isEscaped octet then
    [0x5C, 0x30 + octet / 64, 0x30 + octet / 8 % 8, 0x30 + octet % 8]
  else [octet]

/-- Writes a field. -/
def escapeBytes (field : Bytes) : Bytes := field.flatMap escapeOctet

/-- Writes a field. -/
def escape (field : Text) : Text := Utf8.decodeLossy (escapeBytes (Utf8.encode field))

/-- The octet that three characters denote in octal. -/
def octal? (a b c : UInt8) : Option UInt8 :=
  match Utf8.decode? [a, b, c] with
  | none => none
  | some digits =>
    match Numeral.readNat 8 255 digits with
    | .ok value => some (.ofNat value)
    | .error _ => none

/-- Reads a field. -/
def unescapeBytes : Bytes → Bytes
  | [] => []
  | octet :: a :: b :: c :: rest =>
    match if octet = 0x5C then octal? a b c else none with
    | some value => value :: unescapeBytes rest
    | none => octet :: unescapeBytes (a :: b :: c :: rest)
  | octet :: rest => octet :: unescapeBytes rest

/-- Reads a field as text. -/
def unescape (field : Text) : Text := Utf8.decodeLossy (unescapeBytes (Utf8.encode field))

example : unescape "with\\040space" = "with space" := by decide
example : unescape "trailing\\04" = "trailing\\04" := by decide
example : unescape "\\+12\\400" = "\n\\400" := by decide

end ShareAgent.Mount
