import Mathlib.Data.List.TakeWhile
import ShareAgent.Export.Block
import ShareAgent.Proofs.Text.Lines
import ShareAgent.Proofs.Text.Pieces

/-! # The statements of a block

Statements are taken line by line, so those of two texts follow each other if the first is made of
whole lines (`statements_append`).  A blank at the end of a block adds nothing to it
(`readBlock_concat`), also where it is a line feed and turns a carriage return into a part of the
line break, for that was a blank at the end of a statement or in a comment.
-/
namespace ShareAgent.Export
open Text

/-- The statements of one line. -/
def statementsOf (line : Text) : List Text := pieces endsStatement (code (dropBreak line))

theorem statements_eq (block : Text) :
    statements block = (wholeLines block).flatMap statementsOf := by
  rw [statements, lines, List.flatMap_map]
  rfl

theorem statements_append {s : Text} (hs : s.Ended) (t : Text) :
    statements (s ++ t) = statements s ++ statements t := by
  rw [statements_eq, wholeLines_append hs, List.flatMap_append, ← statements_eq, ← statements_eq]

/-- The values after the statements of a line. -/
def Fields.addLine (f : Fields) (line : Text) : Fields := (statementsOf line).foldl Fields.add f

/-- A block is read line by line. -/
theorem foldl_statements (f : Fields) (block : Text) :
    (statements block).foldl Fields.add f = (wholeLines block).foldl Fields.addLine f := by
  rw [statements_eq, List.foldl_flatMap]
  rfl

theorem readBlock_eq (block : Text) :
    readBlock block = ((wholeLines block).foldl Fields.addLine .none).complete? := by
  rw [readBlock, foldl_statements]

/-- A line without an assignment sets no value. -/
theorem Fields.addLine_of_not_mem {line : Text} (h : '=' ∉ line) (f : Fields) :
    f.addLine line = f := by
  have hadd : ∀ t ∈ statementsOf line, ∀ f : Fields, f.add t = f := by
    intro t ht f
    have hmark : '=' ∉ t := by
      intro hc
      have hcode := (mem_of_mem_pieces ht hc).1
      exact h (dropBreak_subset line ((List.takeWhile_prefix _).subset hcode))
    rw [Fields.add, cut_eq_none hmark]
  rw [addLine]
  exact List.foldlRecOn (motive := (· = f)) _ _ rfl fun _ hf t ht => (hadd t ht _).trans hf

/-! ## A blank at the end -/

theorem value_concat {c : Char} (hc : isBlank c) (t : Text) : value (t ++ [c]) = value t := by
  rw [value, trim, trimBy_concat hc]
  rfl

/-- A blank at the end of a statement is not seen. -/
theorem Fields.add_concat {c : Char} (hc : isBlank c) (f : Fields) (t : Text) :
    f.add (t ++ [c]) = f.add t := by
  have hmark : c ≠ '=' := by
    rintro rfl
    cases hc
  rw [add, add, cut_concat hmark]
  cases cut '=' t with
  | none => rfl
  | some parts => simp only [Option.map_some, value_concat hc]

/-- A comment begins no sooner than its mark. -/
theorem code_append {s : Text} (hs : commentMark ∉ s) (t : Text) : code (s ++ t) = s ++ code t := by
  refine List.takeWhile_append_of_pos fun c hc => ?_
  rw [bne_iff_ne]
  rintro rfl
  exact hs hc

theorem code_eq_self {t : Text} (ht : commentMark ∉ t) : code t = t := by
  simpa [code] using code_append ht []

theorem code_concat_of_mem {t : Text} (ht : commentMark ∈ t) (c : Char) :
    code (t ++ [c]) = code t := by
  obtain ⟨front, back, rfl, hfront⟩ := List.eq_append_cons_of_mem ht
  rw [List.append_assoc, code_append hfront, code_append hfront]
  simp [code]

/-- A blank at the end of a line is not seen, in a comment or in front of one. -/
theorem foldl_pieces_concat {c : Char} (hc : isBlank c) (f : Fields) (t : Text) :
    (pieces endsStatement (code (t ++ [c]))).foldl Fields.add f =
      (pieces endsStatement (code t)).foldl Fields.add f := by
  by_cases hcomment : commentMark ∈ t
  · rw [code_concat_of_mem hcomment]
  have hmark : c ≠ commentMark := by
    rintro rfl
    cases hc
  have hends : endsStatement c = false := by
    simp only [endsStatement, Bool.or_eq_false_iff, beq_eq_false_iff_ne]
    refine ⟨⟨?_, ?_⟩, ?_⟩ <;> rintro rfl <;> cases hc
  have hfree : commentMark ∉ t ++ [c] := by
    simp only [List.mem_append, List.mem_singleton, not_or]
    exact ⟨hcomment, hmark.symm⟩
  obtain ⟨runs, run, ht, htc⟩ := pieces_concat hends t
  rw [code_eq_self hcomment, code_eq_self hfree, ht, htc, List.foldl_append, List.foldl_append]
  exact Fields.add_concat hc _ _

theorem Fields.addLine_feed {t : Text} (ht : '\n' ∉ t) (f : Fields) :
    f.addLine (t ++ ['\n']) = f.addLine t := by
  rw [addLine, addLine, statementsOf, statementsOf, dropBreak_rest ht]
  by_cases hreturn : t.getLast? = some '\r'
  · obtain ⟨body, rfl⟩ : ∃ body, t = body ++ ['\r'] := by
      rw [List.getLast?_eq_some_iff] at hreturn
      exact hreturn
    rw [List.append_assoc, List.singleton_append, dropBreak_return]
    exact (foldl_pieces_concat (by decide) f body).symm
  · rw [dropBreak_feed hreturn]

/-- A blank at the end of a line is not seen, be it a line feed or not. -/
theorem Fields.addLine_concat {c : Char} (hc : isBlank c) {t : Text} (ht : '\n' ∉ t) (f : Fields) :
    f.addLine (t ++ [c]) = f.addLine t := by
  by_cases hfeed : c = '\n'
  · rw [hfeed, addLine_feed ht]
  · have htc : '\n' ∉ t ++ [c] := by simp [ht, Ne.symm hfeed]
    rw [addLine, addLine, statementsOf, statementsOf, dropBreak_rest ht, dropBreak_rest htc]
    exact foldl_pieces_concat hc f t

theorem Fields.addLine_break {t x : Text} (ht : '\n' ∉ t) (hx : IsBreak x) (f : Fields) :
    f.addLine (t ++ x) = f.addLine t := by
  rcases hx with rfl | rfl
  · exact addLine_feed ht f
  · have hreturn : '\n' ∉ t ++ ['\r'] := by simp [ht]
    rw [List.append_cons, addLine_feed hreturn, addLine_concat (by decide) ht]

theorem wholeLines_concat {t : Text} (ht : '\n' ∉ t) (c : Char) :
    wholeLines (t ++ [c]) = [t ++ [c]] := by
  by_cases hfeed : c = '\n'
  · exact IsLine.wholeLines_eq ⟨t, ht, by rw [hfeed]⟩
  · exact wholeLines_last ⟨by simp, by simp [ht, Ne.symm hfeed]⟩

/-- **A blank at the end of a block adds nothing to it.** -/
theorem readBlock_concat {c : Char} (hc : isBlank c) (t : Text) :
    readBlock (t ++ [c]) = readBlock t := by
  rw [readBlock_eq, readBlock_eq]
  by_cases ht : Ended t
  · have hlines : wholeLines [c] = [[c]] := wholeLines_concat (t := []) (by simp) c
    have hempty : ∀ f : Fields, f.addLine [c] = f := fun f =>
      Fields.addLine_concat (t := []) hc (by simp) f
    rw [wholeLines_append ht, List.foldl_append, hlines]
    exact congrArg Fields.complete? (hempty _)
  · obtain ⟨front, last, hfront, hlast, rfl⟩ := exists_rest ht
    rw [List.append_assoc, wholeLines_flatten_append hfront, wholeLines_flatten_append hfront,
      wholeLines_last hlast, wholeLines_concat hlast.2, List.foldl_append, List.foldl_append]
    exact congrArg Fields.complete? (Fields.addLine_concat hc hlast.2 _)

theorem readBlock_break {x : Text} (hx : IsBreak x) (t : Text) :
    readBlock (t ++ x) = readBlock t := by
  rcases hx with rfl | rfl
  · exact readBlock_concat (by decide) t
  · rw [List.append_cons, readBlock_concat (by decide), readBlock_concat (by decide)]

end ShareAgent.Export
