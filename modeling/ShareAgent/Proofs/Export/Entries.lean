import ShareAgent.Export.Config
import ShareAgent.Proofs.Text.Lines

/-! # Reading only the entries

For the entries of a configuration the text between the blocks does not matter, so a reader of
entries has less to remember than a reader of sections: the block under way, if there is one.  Both
find the same entries (`filterMap_readLines`), and reading entries is compositional
(`entriesFrom_append`): what a text adds to the entries before it depends only on the block that it
continues.
-/
namespace ShareAgent.Export

/-- The block under way. -/
def Mode.block? : Mode → Option Block
  | .between _ => none
  | .inside b => some b

/-- The block that a line belongs to, with that line. -/
def withLine : Option Block → Text → Option Block
  | some b, line => some (b.add line)
  | none, line => if beginsBlock line then some (Block.empty.add line) else none

/-- The block, if it is closed no further. -/
def stillOpen : Option Block → Option Block
  | some b => if b.isClosed then none else some b
  | none => none

/-- The entry of the block, if it is closed and has one. -/
def closedEntry : Option Block → List Entry
  | some b => if b.isClosed then (readBlock b.content).toList else []
  | none => []

/-- The block under way after the lines. -/
def blockAfter : Option Block → List Text → Option Block
  | under, [] => under
  | under, line :: rest => blockAfter (stillOpen (withLine under line)) rest

/-- The entries of the blocks that the lines close. -/
def entriesFrom : Option Block → List Text → List Entry
  | _, [] => []
  | under, line :: rest =>
    closedEntry (withLine under line) ++ entriesFrom (stillOpen (withLine under line)) rest

variable {under : Option Block} {b : Block} {line : Text}

theorem withLine_of_begins (h : beginsBlock line) :
    withLine none line = some (Block.empty.add line) := if_pos h

theorem withLine_of_not_begins (h : ¬ beginsBlock line) : withLine none line = none := if_neg h

theorem stillOpen_of_closed (h : b.isClosed) : stillOpen (some b) = none := if_pos h

theorem stillOpen_of_open (h : ¬ b.isClosed) : stillOpen (some b) = some b := if_neg h

theorem closedEntry_of_closed (h : b.isClosed) :
    closedEntry (some b) = (readBlock b.content).toList := if_pos h

theorem closedEntry_of_open (h : ¬ b.isClosed) : closedEntry (some b) = [] := if_neg h

theorem blockAfter_append (under : Option Block) (first second : List Text) :
    blockAfter under (first ++ second) = blockAfter (blockAfter under first) second := by
  induction first generalizing under with
  | nil => rfl
  | cons line first ih => exact ih _

theorem entriesFrom_append (under : Option Block) (first second : List Text) :
    entriesFrom under (first ++ second) =
      entriesFrom under first ++ entriesFrom (blockAfter under first) second := by
  induction first generalizing under with
  | nil => rfl
  | cons line first ih =>
    rw [List.cons_append, entriesFrom, ih, entriesFrom, blockAfter, List.append_assoc]

theorem entriesFrom_singleton (under : Option Block) (line : Text) :
    entriesFrom under [line] = closedEntry (withLine under line) := by
  rw [entriesFrom, entriesFrom, List.append_nil]

theorem filterMap_textSection (t : Text) : (textSection t).filterMap Section.exported? = [] := by
  by_cases ht : t = []
  · rw [textSection, if_pos ht, List.filterMap_nil]
  · rw [textSection, if_neg ht]
    rfl

theorem exported?_toSection (b : Block) : b.toSection.exported? = readBlock b.content := by
  rw [Block.toSection]
  cases readBlock b.content <;> rfl

/-- One line of a block, for a reader of sections that agrees on what follows. -/
theorem filterMap_afterLine {rest : Mode → List Section} {lines : List Text}
    (hrest : ∀ m, (rest m).filterMap Section.exported? = entriesFrom m.block? lines) :
    (afterLine b rest).filterMap Section.exported? =
      closedEntry (some b) ++ entriesFrom (stillOpen (some b)) lines := by
  by_cases hclosed : b.isClosed
  · rw [afterLine, if_pos hclosed, closedEntry_of_closed hclosed, stillOpen_of_closed hclosed,
      List.filterMap_cons, exported?_toSection, hrest]
    cases readBlock b.content <;> rfl
  · rw [afterLine, if_neg hclosed, closedEntry_of_open hclosed, stillOpen_of_open hclosed, hrest]
    rfl

/-- **The sections have the entries that a reader of entries finds.** -/
theorem filterMap_readLines (m : Mode) (lines : List Text) :
    (readLines m lines).filterMap Section.exported? = entriesFrom m.block? lines := by
  induction lines generalizing m with
  | nil => cases m <;> exact filterMap_textSection _
  | cons line rest ih =>
    cases m with
    | inside b => exact filterMap_afterLine ih
    | between text =>
      rw [readLines]
      by_cases hline : beginsBlock line
      · rw [if_pos hline, List.filterMap_append, filterMap_textSection, filterMap_afterLine ih]
        simp only [Mode.block?, entriesFrom, withLine_of_begins hline, List.nil_append]
      · rw [if_neg hline, ih]
        simp only [Mode.block?, entriesFrom, withLine_of_not_begins hline, closedEntry, stillOpen,
          List.nil_append]

theorem readEntries_eq (config : Text) :
    readEntries config = entriesFrom none (Text.wholeLines config) :=
  filterMap_readLines (.between []) _

/-- A reader that is in no block goes on after whole lines as if it began there. -/
theorem readEntries_append {s : Text} (hs : s.Ended) (t : Text) :
    readEntries (s ++ t) =
      readEntries s ++ entriesFrom (blockAfter none (Text.wholeLines s)) (Text.wholeLines t) := by
  rw [readEntries_eq, Text.wholeLines_append hs, entriesFrom_append, readEntries_eq]

end ShareAgent.Export
