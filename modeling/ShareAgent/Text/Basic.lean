/-! # Texts

A text is a list of characters. Every reader in this library is a recursion on that list and
every printer builds one, so both sides of a round trip are stated on the same type. String
literals stand for texts through a coercion. -/
namespace ShareAgent

/-- A sequence of Unicode characters. -/
abbrev Text := List Char

/-- A sequence of octets. -/
abbrev Bytes := List UInt8

namespace Text

/-- The characters of a string. -/
def ofString (s : String) : Text := s.toList

instance : Coe String Text := ⟨ofString⟩

/-- The decimal numeral of a natural number, without leading zeros. -/
def ofNat (n : Nat) : Text := Nat.toDigits 10 n

/-- The decimal numeral of an integer, with a minus sign when it is negative. -/
def ofInt : Int → Text
  | .ofNat n => ofNat n
  | .negSucc n => '-' :: ofNat (n + 1)

/-- The words of a list with `separator` between each two of them. -/
def join (separator : Text) : List Text → Text
  | [] => []
  | [word] => word
  | word :: rest => word ++ separator ++ join separator rest

/-- Drops from both ends the longest runs of characters that satisfy `p`. -/
def trimBy (p : Char → Bool) (t : Text) : Text :=
  ((t.dropWhile p).reverse.dropWhile p).reverse

/-- Lower case on the ASCII letters; every other character is kept. -/
def lowerAscii (t : Text) : Text := t.map Char.toLower

/-- Code point order, which is also the order of the encoded octets. -/
def before : Text → Text → Bool
  | [], [] => false
  | [], _ :: _ => true
  | _ :: _, [] => false
  | a :: s, b :: t => if a = b then before s t else a.toNat < b.toNat

end Text
end ShareAgent
