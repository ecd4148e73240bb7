import Mathlib.Data.List.Basic
import ShareAgent.Proofs.Export.Entries

/-! # What sections are made of

The reader of sections cuts a configuration at line breaks.  A block begins with a line that begins
blocks and gathers lines until its braces are closed (`Gathers`); the text around blocks has no such
lines.  So every section but the last can be read by itself (`WellCut`), and a configuration put
together from some of the sections has just their entries (`readEntries_writeSections`).
-/
namespace ShareAgent.Export
open Text

variable {b : Block} {line : Text} {ls : List Text} {s : Section} {ss : List Section}

/-- The lines make up the block so far, and only the last of them may have closed it. -/
inductive Gathers : List Text → Block → Prop
  | first {line : Text} (hline : beginsBlock line) : Gathers [line] (Block.empty.add line)
  | more {ls : List Text} {b : Block} {line : Text} (h : Gathers ls b) (hopen : ¬ b.isClosed) :
      Gathers (ls ++ [line]) (b.add line)

/-- The last line of a block is its first or continues it. -/
theorem gathers_concat : Gathers (ls ++ [line]) b ↔
    (ls = [] ∧ beginsBlock line ∧ b = Block.empty.add line) ∨
      ∃ b', Gathers ls b' ∧ ¬ b'.isClosed ∧ b = b'.add line := by
  constructor
  · intro h
    -- Named first, since the constructors put their lists together in their own ways.
    generalize hls : ls ++ [line] = lines at h
    cases h with
    | first hline =>
      obtain ⟨rfl, hlast⟩ := List.append_inj' (hls.trans (List.nil_append _).symm) rfl
      obtain rfl := List.singleton_inj.mp hlast
      exact .inl ⟨rfl, hline, rfl⟩
    | more h hopen =>
      obtain ⟨rfl, hlast⟩ := List.append_inj' hls rfl
      obtain rfl := List.singleton_inj.mp hlast
      exact .inr ⟨_, h, hopen, rfl⟩
  · rintro (⟨rfl, hline, rfl⟩ | ⟨b', h, hopen, rfl⟩)
    · exact .first hline
    · exact .more h hopen

/-- A line without opening braces opens none. -/
theorem Block.depth_add_eq_zero (hdepth : b.opened = false → b.depth = 0)
    (hb : (b.add line).opened = false) : (b.add line).depth = 0 := by
  obtain ⟨hopened, hnone⟩ := Bool.or_eq_false_iff.mp hb
  have hcount : line.count '\x7b' = 0 :=
    List.count_eq_zero.mpr fun hmem => by simp [hmem] at hnone
  simp [Block.add, hdepth hopened, hcount]

namespace Gathers

theorem ne_nil (h : Gathers ls b) : ls ≠ [] := by
  cases h <;> simp

theorem content (h : Gathers ls b) : b.content = ls.flatten := by
  induction h with
  | first => simp [Block.add, Block.empty]
  | more _ _ ih => simp [Block.add, ih]

/-- Before a brace is opened none is counted. -/
theorem depth_eq_zero (h : Gathers ls b) (hb : b.opened = false) : b.depth = 0 := by
  induction h with
  | first => exact Block.depth_add_eq_zero (fun _ => rfl) hb
  | more _ _ ih => exact Block.depth_add_eq_zero ih hb

/-- The lines are found to be the block. -/
theorem read (h : Gathers ls b) :
    entriesFrom none ls = closedEntry (some b) ∧ blockAfter none ls = stillOpen (some b) := by
  induction h with
  | @first line hline =>
    have hwith := withLine_of_begins hline
    exact ⟨by rw [entriesFrom_singleton, hwith], by rw [blockAfter, blockAfter, hwith]⟩
  | @more ls b line _ hopen ih =>
    have hbefore : blockAfter none ls = some b := by rw [ih.2, stillOpen_of_open hopen]
    have hnone : entriesFrom none ls = [] := by rw [ih.1, closedEntry_of_open hopen]
    rw [entriesFrom_append, blockAfter_append, hbefore, hnone, entriesFrom_singleton]
    exact ⟨rfl, rfl⟩

theorem read_open (h : Gathers ls b) (hopen : ¬ b.isClosed) :
    entriesFrom none ls = [] ∧ blockAfter none ls = some b := by
  obtain ⟨hentries, hunder⟩ := h.read
  exact ⟨by rw [hentries, closedEntry_of_open hopen], by rw [hunder, stillOpen_of_open hopen]⟩

theorem read_closed (h : Gathers ls b) (hclosed : b.isClosed) :
    entriesFrom none ls = (readBlock b.content).toList ∧ blockAfter none ls = none := by
  obtain ⟨hentries, hunder⟩ := h.read
  exact ⟨by rw [hentries, closedEntry_of_closed hclosed], by rw [hunder, stillOpen_of_closed hclosed]⟩

/-- The reader of sections gathers the block. -/
theorem readLines_append (h : Gathers ls b) (rest : List Text) :
    readLines (.between []) (ls ++ rest) = afterLine b (readLines · rest) := by
  induction h generalizing rest with
  | first hline =>
    rw [List.singleton_append, readLines, if_pos hline]
    rfl
  | more _ hopen ih =>
    rw [List.append_assoc, List.singleton_append, ih, afterLine, if_neg hopen, readLines]

end Gathers

/-- Lines that begin no block are text. -/
theorem read_plain (hls : ∀ l ∈ ls, ¬ beginsBlock l) :
    entriesFrom none ls = [] ∧ blockAfter none ls = none := by
  induction ls with
  | nil => exact ⟨rfl, rfl⟩
  | cons line ls ih =>
    obtain ⟨hline, hrest⟩ := List.forall_mem_cons.mp hls
    have hwith := withLine_of_not_begins hline
    rw [entriesFrom, blockAfter, hwith]
    exact ih hrest

/-- The section is made of these lines and is complete with them. -/
inductive Section.MadeOf : Section → List Text → Prop
  | text {ls : List Text} (hne : ls ≠ []) (hls : ∀ l ∈ ls, ¬ beginsBlock l) :
      MadeOf (.text ls.flatten) ls
  | block {ls : List Text} {b : Block} (h : Gathers ls b) (hclosed : b.isClosed) :
      MadeOf b.toSection ls

theorem content_toSection (b : Block) : b.toSection.content = b.content := by
  rw [Block.toSection]
  cases readBlock b.content <;> rfl

namespace Section.MadeOf

theorem content (h : s.MadeOf ls) : s.content = ls.flatten := by
  cases h with
  | text => rfl
  | block h => rw [content_toSection, h.content]

theorem read (h : s.MadeOf ls) :
    entriesFrom none ls = s.exported?.toList ∧ blockAfter none ls = none := by
  cases h with
  | text _ hls => exact read_plain hls
  | block h hclosed =>
    rw [exported?_toSection]
    exact h.read_closed hclosed

end Section.MadeOf

/-- **Sections that can be read one by one.**  All but the last consist of whole lines and are
complete; the last may lack its line feed, and may be a block that is not closed. -/
inductive WellCut : List Section → Prop
  | nil : WellCut []
  | unclosed {b : Block} {ls : List Text} (h : Gathers ls b) (hopen : ¬ b.isClosed)
      (hcut : Cut ls) : WellCut [.text b.content]
  | last {s : Section} {ls : List Text} (h : s.MadeOf ls) (hcut : Cut ls) : WellCut [s]
  | cons {s : Section} {ls : List Text} {rest : List Section} (h : s.MadeOf ls)
      (hls : ∀ l ∈ ls, IsLine l) (hrest : WellCut rest) : WellCut (s :: rest)

namespace WellCut

/-- Leaving sections out leaves the others as they are. -/
theorem sublist {kept : List Section} (h : WellCut ss) (hsub : kept.Sublist ss) :
    WellCut kept := by
  induction h generalizing kept with
  | nil =>
    rw [List.sublist_nil.mp hsub]
    exact .nil
  | unclosed h hopen hcut =>
    rcases List.sublist_singleton.mp hsub with rfl | rfl
    · exact .nil
    · exact .unclosed h hopen hcut
  | last h hcut =>
    rcases List.sublist_singleton.mp hsub with rfl | rfl
    · exact .nil
    · exact .last h hcut
  | cons h hls _ ih =>
    rcases List.sublist_cons_iff.mp hsub with hrest | ⟨kept, rfl, hrest⟩
    · exact ih hrest
    · exact .cons h hls (ih hrest)

end WellCut

@[simp] theorem writeSections_nil : writeSections [] = [] := rfl

@[simp] theorem writeSections_cons (s : Section) (ss : List Section) :
    writeSections (s :: ss) = s.content ++ writeSections ss := rfl

theorem writeSections_text (t : Text) : writeSections [.text t] = t := List.append_nil t

theorem writeSections_append (first second : List Section) :
    writeSections (first ++ second) = writeSections first ++ writeSections second :=
  List.flatMap_append

/-- What follows a complete section of whole lines is read by itself. -/
theorem Section.MadeOf.readEntries_append (h : s.MadeOf ls) (hls : ∀ l ∈ ls, IsLine l)
    (t : Text) : readEntries (s.content ++ t) = s.exported?.toList ++ readEntries t := by
  rw [h.content, Export.readEntries_append (ended_flatten hls), wholeLines_flatten hls, h.read.2,
    ← readEntries_eq, readEntries_eq ls.flatten, wholeLines_flatten hls, h.read.1]

/-- **Sections put together have just their own entries.** -/
theorem readEntries_writeSections (h : WellCut ss) :
    readEntries (writeSections ss) = ss.filterMap Section.exported? := by
  induction h with
  | nil => rfl
  | @unclosed b ls h hopen hcut =>
    rw [writeSections_cons, writeSections_nil, List.append_nil, Section.content, h.content,
      readEntries_eq, hcut.wholeLines_flatten, (h.read_open hopen).1]
    rfl
  | @last s ls h hcut =>
    rw [writeSections_cons, writeSections_nil, List.append_nil, h.content, readEntries_eq,
      hcut.wholeLines_flatten, h.read.1, List.filterMap_cons]
    cases s.exported? <;> rfl
  | @cons s ls rest h hls _ ih =>
    rw [writeSections_cons, h.readEntries_append hls, ih, List.filterMap_cons]
    cases s.exported? <;> rfl

/-! ## The sections of a configuration -/

/-- The lines that the reader has in hand. -/
def Mode.Holds : Mode → List Text → Prop
  | .between text, ls => text = ls.flatten ∧ ∀ l ∈ ls, ¬ beginsBlock l
  | .inside b, ls => Gathers ls b ∧ ¬ b.isClosed

/-- A complete section in front of what the reader makes of the lines after it. -/
theorem WellCut.cons_of_cut {lines : List Text} (h : s.MadeOf ls) (hcut : Cut (ls ++ lines))
    (hlines : lines = [] → ss = []) (hss : WellCut ss) : WellCut (s :: ss) := by
  by_cases hnil : lines = []
  · rw [hlines hnil]
    rw [hnil, List.append_nil] at hcut
    exact .last h hcut
  · exact .cons h (hcut.isLine_of_append hnil) hss

theorem WellCut.textSection_append {lines : List Text} (hls : ∀ l ∈ ls, ¬ beginsBlock l)
    (hcut : Cut (ls ++ lines)) (hlines : lines = [] → ss = []) (hss : WellCut ss) :
    WellCut (textSection ls.flatten ++ ss) := by
  by_cases hempty : ls.flatten = []
  · rw [textSection, if_pos hempty]
    exact hss
  · rw [textSection, if_neg hempty]
    have hne : ls ≠ [] := by
      rintro rfl
      exact hempty rfl
    exact hss.cons_of_cut (.text hne hls) hcut hlines

/-- The section of a closed block, or the block goes on. -/
theorem wellCut_afterLine {rest : Mode → List Section} {lines : List Text} (h : Gathers ls b)
    (hcut : Cut (ls ++ lines)) (hlines : lines = [] → rest (.between []) = [])
    (hrest : ∀ m ls, m.Holds ls → Cut (ls ++ lines) → WellCut (rest m)) :
    WellCut (afterLine b rest) := by
  by_cases hclosed : b.isClosed
  · rw [afterLine, if_pos hclosed]
    have hafter : WellCut (rest (.between [])) :=
      hrest _ [] ⟨rfl, List.forall_mem_nil _⟩ hcut.of_append_right
    exact hafter.cons_of_cut (.block h hclosed) hcut hlines
  · rw [afterLine, if_neg hclosed]
    exact hrest _ ls ⟨h, hclosed⟩ hcut

theorem wellCut_readLines {m : Mode} {lines : List Text} (hm : m.Holds ls)
    (hcut : Cut (ls ++ lines)) : WellCut (readLines m lines) := by
  -- On the lines that are left; those in hand grow with each of them.
  induction lines generalizing m ls with
  | nil =>
    rw [List.append_nil] at hcut
    cases m with
    | between text =>
      obtain ⟨rfl, hls⟩ := hm
      have hcut' : Cut (ls ++ []) := by simpa using hcut
      have h := WellCut.nil.textSection_append hls hcut' fun _ => rfl
      rwa [List.append_nil] at h
    | inside b =>
      obtain ⟨h, hopen⟩ := hm
      rw [readLines, textSection]
      by_cases hempty : b.content = []
      · rw [if_pos hempty]
        exact .nil
      · rw [if_neg hempty]
        exact .unclosed h hopen hcut
  | cons line rest ih =>
    have hcut' : Cut ((ls ++ [line]) ++ rest) := by simpa using hcut
    have hend : rest = [] → readLines (.between []) rest = [] := by
      rintro rfl
      rfl
    cases m with
    | inside b =>
      obtain ⟨h, hopen⟩ := hm
      exact wellCut_afterLine (.more h hopen) hcut' hend fun _ _ => ih
    | between text =>
      obtain ⟨rfl, hls⟩ := hm
      rw [readLines]
      by_cases hline : beginsBlock line
      · rw [if_pos hline]
        have hnext : line :: rest = [] → afterLine (Block.empty.add line) (readLines · rest) = [] :=
          fun hnil => (List.cons_ne_nil line rest hnil).elim
        refine WellCut.textSection_append hls hcut hnext ?_
        have hrest : Cut ([line] ++ rest) := hcut.of_append_right
        exact wellCut_afterLine (.first hline) hrest hend fun _ _ => ih
      · rw [if_neg hline]
        refine ih ⟨?_, ?_⟩ hcut'
        · simp
        · exact List.forall_mem_append.mpr ⟨hls, by simpa using hline⟩

/-- **A configuration is well cut.** -/
theorem wellCut_readSections (config : Text) : WellCut (readSections config) := by
  have hstart : (Mode.between []).Holds [] := ⟨rfl, nofun⟩
  exact wellCut_readLines hstart (cut_wholeLines config)

/-- The text of the section under way. -/
def Mode.content : Mode → Text
  | .between text => text
  | .inside b => b.content

theorem writeSections_textSection (t : Text) : writeSections (textSection t) = t := by
  by_cases ht : t = []
  · rw [textSection, if_pos ht, ht, writeSections_nil]
  · rw [textSection, if_neg ht, writeSections_cons, writeSections_nil, List.append_nil,
      Section.content]

theorem writeSections_afterLine {rest : Mode → List Section} {t : Text}
    (hrest : ∀ m, writeSections (rest m) = m.content ++ t) :
    writeSections (afterLine b rest) = b.content ++ t := by
  by_cases hclosed : b.isClosed
  · rw [afterLine, if_pos hclosed, writeSections_cons, content_toSection, hrest]
    rfl
  · rw [afterLine, if_neg hclosed, hrest]
    rfl

theorem writeSections_readLines (m : Mode) (lines : List Text) :
    writeSections (readLines m lines) = m.content ++ lines.flatten := by
  induction lines generalizing m with
  | nil =>
    rw [List.flatten_nil, List.append_nil]
    cases m <;> exact writeSections_textSection _
  | cons line rest ih =>
    rw [List.flatten_cons, ← List.append_assoc]
    cases m with
    | inside b => exact writeSections_afterLine ih
    | between text =>
      rw [readLines]
      by_cases hline : beginsBlock line
      · rw [if_pos hline, writeSections_append, writeSections_textSection,
          writeSections_afterLine ih, Mode.content, List.append_assoc]
        rfl
      · rw [if_neg hline, ih]
        rfl

/-- **Nothing of a configuration is lost.** -/
theorem writeSections_readSections (config : Text) : writeSections (readSections config) = config :=
  (writeSections_readLines _ _).trans (flatten_wholeLines config)

end ShareAgent.Export
