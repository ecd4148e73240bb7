import ShareAgent.Text.Numeral

/-! # Arithmetic of the shell -/
namespace ShareAgent.Machine.Shell

/-- A token of an expression. -/
inductive Term
  | value (value : Int)
  | mark (mark : Text)
  deriving DecidableEq, Repr

/-- The operators that consist of two characters. -/
def longMarks : List Text := ["<=", ">=", "==", "!=", "&&", "||", "<<", ">>"]

/-- The value of a numeral: hexadecimal after `0x`, octal after a zero, else decimal. -/
def numeral (t : Text) : Nat :=
  match t with
  | '0' :: 'x' :: digits => digits.foldl (fun m c =>
      16 * m + if c.isDigit then c.toNat - 48 else c.toLower.toNat - 87) 0
  | '0' :: digits => digits.foldl (fun m c => 8 * m + (c.toNat - 48)) 0
  | digits => digits.foldl (fun m c => 10 * m + (c.toNat - 48)) 0

/-- The tokens of an expression. A name stands for its value, with or without a dollar sign. -/
def terms (value : Text → Int) : Nat → Text → List Term
  | 0, _ => []
  | _, [] => []
  | n + 1, c :: rest =>
    if c == ' ' || c == '\t' || c == '\n' || c == '$' || c == '"' || c == '\x7b' || c == '\x7d' then
      terms value n rest
    else if c.isDigit then
      let digits := (c :: rest).takeWhile Char.isAlphanum
      .value (numeral digits) :: terms value n ((c :: rest).drop digits.length)
    else if c.isAlpha || c == '_' then
      let name := (c :: rest).takeWhile fun c => c.isAlphanum || c == '_'
      .value (value name) :: terms value n ((c :: rest).drop name.length)
    else if longMarks.contains ((c :: rest).take 2) then
      .mark ((c :: rest).take 2) :: terms value n (rest.drop 1)
    else .mark [c] :: terms value n rest

/-- How strongly an operator binds. -/
def strength? (mark : Text) : Option Nat :=
  if mark = "||" then some 1
  else if mark = "&&" then some 2
  else if mark = "==" || mark = "!=" then some 3
  else if mark = "<" || mark = ">" || mark = "<=" || mark = ">=" then some 4
  else if mark = "<<" || mark = ">>" then some 5
  else if mark = "+" || mark = "-" then some 6
  else if mark = "*" || mark = "/" || mark = "%" then some 7
  else none

/-- A truth value as a number. -/
def truth (b : Bool) : Int := if b then 1 else 0

/-- The value of an operation; none for a division by zero. -/
def operate (mark : Text) (a b : Int) : Option Int :=
  if mark = "||" then some (truth (a != 0 || b != 0))
  else if mark = "&&" then some (truth (a != 0 && b != 0))
  else if mark = "==" then some (truth (a == b))
  else if mark = "!=" then some (truth (a != b))
  else if mark = "<" then some (truth (decide (a < b)))
  else if mark = ">" then some (truth (decide (b < a)))
  else if mark = "<=" then some (truth (decide (a ≤ b)))
  else if mark = ">=" then some (truth (decide (b ≤ a)))
  else if mark = "<<" then some (a * (1 <<< b.toNat : Nat))
  else if mark = ">>" then some (a >>> b.toNat)
  else if mark = "+" then some (a + b)
  else if mark = "-" then some (a - b)
  else if mark = "*" then some (a * b)
  else if b = 0 then none
  else if mark = "/" then some (a.tdiv b)
  else some (a.tmod b)

mutual

/-- Operations of at least a given strength. -/
def operations : Nat → Nat → List Term → Option (Int × List Term)
  | 0, _, _ => none
  | n + 1, least, ts => do
    let (first, rest) ← operand n ts
    goOn n least first rest

/-- Goes on after a first operand. -/
def goOn : Nat → Nat → Int → List Term → Option (Int × List Term)
  | 0, _, _, _ => none
  | n + 1, least, first, .mark mark :: rest =>
    match strength? mark with
    | none => some (first, .mark mark :: rest)
    | some strength =>
      if strength < least then some (first, .mark mark :: rest)
      else do
        let (second, rest) ← operations n (strength + 1) rest
        let value ← operate mark first second
        goOn n least value rest
  | _, _, first, rest => some (first, rest)

/-- One operand. -/
def operand : Nat → List Term → Option (Int × List Term)
  | 0, _ => none
  | n + 1, ts =>
    match ts with
    | .value value :: rest => some (value, rest)
    | .mark ['-'] :: rest => (operand n rest).map fun (value, rest) => (-value, rest)
    | .mark ['+'] :: rest => operand n rest
    | .mark ['!'] :: rest => (operand n rest).map fun (value, rest) => (truth (value == 0), rest)
    | .mark ['('] :: rest =>
      match operations n 0 rest with
      | some (value, .mark [')'] :: rest) => some (value, rest)
      | _ => none
    | _ => none

end

/-- The value of an expression, if it has one. -/
def sum? (value : Text → Int) (expression : Text) : Option Int :=
  let ts := terms value (expression.length + 1) expression
  match operations (4 * ts.length + 4) 0 ts with
  | some (value, []) => some value
  | _ => none

end ShareAgent.Machine.Shell
