import ShareAgent.Text.Invisible

/-! # Quoted text

Text between quotation marks for messages, where a reader must see every character. -/
namespace ShareAgent.Quoted

/-- The hexadecimal numeral of a code point, in lower case and without leading zeros. -/
def hexadecimal (n : Nat) : Text := Nat.toDigits 16 n

/-- One character inside quotation marks. -/
def encodeChar (c : Char) : Text :=
  if c = '\x00' then "\\0"
  else if c = '\t' then "\\t"
  else if c = '\n' then "\\n"
  else if c = '\r' then "\\r"
  else if c = '"' then "\\\""
  else if c = '\\' then "\\\\"
  else if isInvisible c then "\\u\x7b" ++ hexadecimal c.toNat ++ "\x7d"
  else [c]

/-- A text between quotation marks. -/
def encode (t : Text) : Text := "\"" ++ t.flatMap encodeChar ++ "\""

end ShareAgent.Quoted
