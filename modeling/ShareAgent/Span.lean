import ShareAgent.Text.Basic

/-! # Spans of time -/
namespace ShareAgent

/-- A span of time in nanoseconds. -/
structure Span where
  nanoseconds : Nat
  deriving DecidableEq, Repr, Inhabited

namespace Span

/-- A span of whole seconds. -/
def ofSeconds (n : Nat) : Span := ⟨n * 1000000000⟩

/-- A span of whole milliseconds. -/
def ofMilliseconds (n : Nat) : Span := ⟨n * 1000000⟩

/-- The whole seconds of a span. -/
def seconds (s : Span) : Nat := s.nanoseconds / 1000000000

/-- The nanoseconds beside the whole seconds. -/
def fraction (s : Span) : Nat := s.nanoseconds % 1000000000

/-- The whole milliseconds of a span. -/
def milliseconds (s : Span) : Nat := s.nanoseconds / 1000000

/-- The longer of two spans. -/
def longer (a b : Span) : Span := if a.nanoseconds < b.nanoseconds then b else a

/-- The digits of `n` with zeros in front to make `width` digits, without zeros at the end. -/
def decimals (width n : Nat) : Text :=
  let digits := Text.ofNat n
  ((List.replicate (width - digits.length) '0' ++ digits).reverse.dropWhile (· == '0')).reverse

/-- Writes `n` units, of which each `10 ^ width` make one of the unit that is written. -/
def scaled (n width : Nat) (unit : Text) : Text :=
  let whole := Nat.pow 10 width
  let rest := n % whole
  Text.ofNat (n / whole) ++ (if rest = 0 then [] else '.' :: decimals width rest) ++ unit

/-- The span in the largest unit of which it holds one, with as many decimals as it needs. -/
def text (s : Span) : Text :=
  let n := s.nanoseconds
  if 1000000000 ≤ n then scaled n 9 "s"
  else if 1000000 ≤ n then scaled n 6 "ms"
  else if 1000 ≤ n then scaled n 3 "µs"
  else scaled n 0 "ns"

example : (ofMilliseconds 10020).text = "10.02s" := by decide
example : (⟨1000001⟩ : Span).text = "1.000001ms" := by decide
example : (⟨0⟩ : Span).text = "0ns" := by decide

end Span
end ShareAgent
