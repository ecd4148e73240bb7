import ShareAgent.Text.Basic

/-! # Blanks

The characters with the Unicode property `White_Space`, and what is read up to them. -/
namespace ShareAgent

/-- The Unicode property `White_Space`. -/
def isBlank (c : Char) : Bool :=
  let n := c.toNat
  (9 ≤ n && n ≤ 13) || n = 0x20 || n = 0x85 || n = 0xA0 || n = 0x1680 ||
    (0x2000 ≤ n && n ≤ 0x200A) || n = 0x2028 || n = 0x2029 || n = 0x202F || n = 0x205F ||
    n = 0x3000

/-- Every ASCII blank of the core library is a blank. -/
theorem isBlank_of_isWhitespace {c : Char} (h : c.isWhitespace = true) : isBlank c = true := by
  simp only [Char.isWhitespace, Bool.or_eq_true, decide_eq_true_eq] at h
  rcases h with ((rfl | rfl) | rfl) | rfl <;> decide

namespace Text

/-- Drops the blanks in front. -/
def trimStart (t : Text) : Text := t.dropWhile isBlank

/-- Drops the blanks at both ends. -/
def trim (t : Text) : Text := trimBy isBlank t

/-- Drops the quotation marks at both ends. -/
def trimQuotes (t : Text) : Text := trimBy (· == '"') t

end Text
end ShareAgent
