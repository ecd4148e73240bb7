import ShareAgent.Text.Blank

/-! # Cutting texts

Lines, words and fields. `wholeLines` and `pieces` lose nothing that they do not name: the whole
lines concatenate to the text, and the pieces do with their separators put back. -/
namespace ShareAgent.Text

/-- The runs between the elements that satisfy `p`; there is one more run than such elements. -/
def pieces {α : Type} (p : α → Bool) : List α → List (List α)
  | [] => [[]]
  | c :: rest =>
    match p c, pieces p rest with
    | true, runs => [] :: runs
    | false, [] => [[c]]
    | false, run :: runs => (c :: run) :: runs

/-- The words between blanks. -/
def words (t : Text) : List Text := (pieces isBlank t).filter (! ·.isEmpty)

/-- The lines with their line feeds; only the last may lack one, and none is empty. -/
def wholeLines : Text → List Text
  | [] => []
  | c :: rest =>
    if c = '\n' then [c] :: wholeLines rest
    else match wholeLines rest with
      | [] => [[c]]
      | line :: lines => (c :: line) :: lines

/-- Drops a line feed at the end, together with one carriage return before it. -/
def dropBreak (line : Text) : Text :=
  match line.reverse with
  | '\n' :: '\r' :: back => back.reverse
  | '\n' :: back => back.reverse
  | _ => line

/-- The lines without their line breaks. -/
def lines (t : Text) : List Text := (wholeLines t).map dropBreak

/-- What stands before and after the first `mark`, if there is one. -/
def cut (mark : Char) : Text → Option (Text × Text)
  | [] => none
  | c :: rest =>
    if c = mark then some ([], rest)
    else (cut mark rest).map fun (front, back) => (c :: front, back)

/-- What stands before and after the first occurrence of `mark`, if there is one. -/
def cutAt (mark : Text) : Text → Option (Text × Text)
  | [] => none
  | c :: rest =>
    if mark.isPrefixOf (c :: rest) then some ([], (c :: rest).drop mark.length)
    else (cutAt mark rest).map fun (front, back) => (c :: front, back)

/-- The whole lines put together give the text back. -/
theorem flatten_wholeLines (t : Text) : (wholeLines t).flatten = t := by
  induction t with
  | nil => rfl
  | cons c rest ih =>
    simp only [wholeLines]
    split
    · simp [ih]
    · split
      · rename_i h
        rw [h] at ih
        simp_all
      · rename_i h
        rw [h] at ih
        simp_all

end ShareAgent.Text
