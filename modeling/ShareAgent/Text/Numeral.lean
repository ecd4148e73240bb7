import ShareAgent.Text.Basic

/-! # Reading numerals

Numerals of a bounded number type. A plus sign and leading zeros are allowed, a minus sign only
where the type has negative values. The first fault from the left is the one reported. -/
namespace ShareAgent

/-- Why a text is not a numeral. -/
inductive NumeralError
  | empty
  | notADigit
  | tooLarge
  | tooSmall
  deriving DecidableEq, Repr

/-- The wording of a numeral error. -/
def NumeralError.message : NumeralError → Text
  | .empty => "cannot parse integer from empty string"
  | .notADigit => "invalid digit found in string"
  | .tooLarge => "number too large to fit in target type"
  | .tooSmall => "number too small to fit in target type"

namespace Numeral

/-- The value of a decimal digit below `base`. -/
def digit? (base : Nat) (c : Char) : Option Nat :=
  if c.isDigit && c.toNat - 48 < base then some (c.toNat - 48) else none

/-- Continues the numeral whose value so far is `value`; `overflow` is the fault when the value
passes `limit`. -/
def readDigits (base limit : Nat) (overflow : NumeralError) :
    Nat → Text → Except NumeralError Nat
  | value, [] => .ok value
  | value, c :: rest =>
    match digit? base c with
    | none => .error .notADigit
    | some d =>
      if base * value + d ≤ limit then readDigits base limit overflow (base * value + d) rest
      else .error overflow

/-- A numeral of at least one digit. -/
def readSome (base limit : Nat) (overflow : NumeralError) : Text → Except NumeralError Nat
  | [] => .error .notADigit
  | digits => readDigits base limit overflow 0 digits

/-- A numeral of a type whose values run from zero to `limit`. -/
def readNat (base limit : Nat) : Text → Except NumeralError Nat
  | [] => .error .empty
  | '+' :: rest => readSome base limit .tooLarge rest
  | digits => readSome base limit .tooLarge digits

/-- A decimal numeral of a signed type of `bits` bits. -/
def readInt (bits : Nat) : Text → Except NumeralError Int
  | [] => .error .empty
  | '+' :: rest => (readSome 10 (1 <<< (bits - 1) - 1) .tooLarge rest).map (↑·)
  | '-' :: rest => (readSome 10 (1 <<< (bits - 1)) .tooSmall rest).map (- ↑·)
  | digits => (readSome 10 (1 <<< (bits - 1) - 1) .tooLarge digits).map (↑·)

/-- A decimal numeral of an unsigned type of `bits` bits. -/
def readWord (bits : Nat) (t : Text) : Except NumeralError Nat := readNat 10 (1 <<< bits - 1) t

example : readWord 16 "+065535" = .ok 65535 := rfl
example : readWord 16 "65536x" = .error .tooLarge := rfl
example : readInt 32 "-2147483649" = .error .tooSmall := rfl

end Numeral

end ShareAgent
