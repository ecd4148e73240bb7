import ShareAgent.Text.Basic

/-! # UTF-8

Texts as octets. Decoding is one pass of a scanner that reports each character, and each longest
malformed piece as a gap; strict decoding refuses gaps, lossy decoding puts U+FFFD in their
place. -/
namespace ShareAgent.Utf8

/-- The octets of one character. -/
def encodeChar (c : Char) : Bytes :=
  let n := c.toNat
  if n < 0x80 then [.ofNat n]
  else if n < 0x800 then [.ofNat (0xC0 + n / 64), .ofNat (0x80 + n % 64)]
  else if n < 0x10000 then
    [.ofNat (0xE0 + n / 4096), .ofNat (0x80 + n / 64 % 64), .ofNat (0x80 + n % 64)]
  else
    [.ofNat (0xF0 + n / 262144), .ofNat (0x80 + n / 4096 % 64), .ofNat (0x80 + n / 64 % 64),
      .ofNat (0x80 + n % 64)]

/-- The octets of a text. -/
def encode (t : Text) : Bytes := t.flatMap encodeChar

/-- A character whose first octets are read: the bits so far, how many octets are missing, and the
range of the next. -/
structure Unfinished where
  bits : Nat
  missing : Nat
  low : Nat
  high : Nat
  deriving DecidableEq, Repr

/-- What an octet does where a character may begin. -/
inductive Lead
  | whole (c : Char)
  | opens (rest : Unfinished)
  | malformed
  deriving DecidableEq, Repr

/-- Reads an octet where a character may begin. The ranges leave out overlong forms, surrogates and
values above U+10FFFF. -/
def Lead.of (octet : UInt8) : Lead :=
  let n := octet.toNat
  if n < 0x80 then .whole (Char.ofNat n)
  else if n < 0xC2 then .malformed
  else if n < 0xE0 then .opens ⟨n - 0xC0, 1, 0x80, 0xBF⟩
  else if n < 0xF0 then
    .opens ⟨n - 0xE0, 2, if n = 0xE0 then 0xA0 else 0x80, if n = 0xED then 0x9F else 0xBF⟩
  else if n < 0xF5 then
    .opens ⟨n - 0xF0, 3, if n = 0xF0 then 0x90 else 0x80, if n = 0xF4 then 0x8F else 0xBF⟩
  else .malformed

/-- The characters found so far, latest first, with `none` for a malformed piece, and the character
under way. -/
structure Scanner where
  found : List (Option Char)
  unfinished : Option Unfinished

namespace Scanner

/-- Nothing read yet. -/
def start : Scanner := ⟨[], none⟩

/-- Reads an octet where a character may begin. -/
def lead (found : List (Option Char)) (octet : UInt8) : Scanner :=
  match Lead.of octet with
  | .whole c => ⟨some c :: found, none⟩
  | .opens rest => ⟨found, some rest⟩
  | .malformed => ⟨none :: found, none⟩

/-- Reads an octet. One that cannot continue the character under way ends it as malformed. -/
def read (s : Scanner) (octet : UInt8) : Scanner :=
  match s.unfinished with
  | none => lead s.found octet
  | some u =>
    if u.low ≤ octet.toNat ∧ octet.toNat ≤ u.high then
      let bits := u.bits * 64 + (octet.toNat - 0x80)
      if u.missing = 1 then ⟨some (Char.ofNat bits) :: s.found, none⟩
      else ⟨s.found, some ⟨bits, u.missing - 1, 0x80, 0xBF⟩⟩
    else lead (none :: s.found) octet

/-- The characters found when the octets end. -/
def finish (s : Scanner) : List (Option Char) :=
  match s.unfinished with
  | none => s.found.reverse
  | some _ => (none :: s.found).reverse

end Scanner

/-- The characters of the octets, with `none` for each longest malformed piece. -/
def scan (octets : Bytes) : List (Option Char) := (octets.foldl Scanner.read .start).finish

/-- The text with these octets, if they are well formed. -/
def decode? (octets : Bytes) : Option Text :=
  let found := scan octets
  if found.all Option.isSome then some (found.filterMap id) else none

/-- The text with these octets, malformed pieces replaced by U+FFFD. -/
def decodeLossy (octets : Bytes) : Text :=
  (scan octets).map fun c => c.getD '\uFFFD'

/-- The number of octets of a text. -/
def size (t : Text) : Nat := t.foldl (fun n c => n + c.utf8Size) 0

example : decode? (encode "aé€😀") = some (Text.ofString "aé€😀") := by decide
example : decodeLossy [0x41, 0xE2, 0x82, 0x41, 0xF0, 0x80] = "A\uFFFDA\uFFFD\uFFFD" := by decide

end ShareAgent.Utf8
