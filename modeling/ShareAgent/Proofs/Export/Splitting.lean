import ShareAgent.Proofs.Export.Sections

/-! # Splitting a configuration

A configuration is split into runs of its lines, one run for each section, in order and without a
line left over (`exists_runs`): the reader of sections cuts between lines only.  An export's run
begins with its header line.  Since the sections are well cut (`wellCut_readSections`), any of them
can be put together again and are read as they were.
-/
namespace ShareAgent.Export
open Text

variable {b : Block} {ls : List Text} {s : Section} {ss : List Section} {runs : List (List Text)}

/-- The section is written in these lines.  Those of an export begin with its header and give its
entry. -/
inductive Section.WrittenIn : Section → List Text → Prop
  | text {ls : List Text} (hne : ls ≠ []) : WrittenIn (.text ls.flatten) ls
  | block {entry : Entry} {header : Text} {ls : List Text} (hheader : beginsBlock header)
      (hentry : readBlock (header :: ls).flatten = some entry) :
      WrittenIn (.block entry (header :: ls).flatten) (header :: ls)

namespace Section.WrittenIn

theorem content (h : s.WrittenIn ls) : s.content = ls.flatten := by
  cases h <;> rfl

theorem ne_nil (h : s.WrittenIn ls) : ls ≠ [] := by
  cases h with
  | text hne => exact hne
  | block => exact List.cons_ne_nil _ _

end Section.WrittenIn

/-- A block begins with its header. -/
theorem Gathers.exists_header (h : Gathers ls b) :
    ∃ header rest, ls = header :: rest ∧ beginsBlock header := by
  induction h with
  | first hline => exact ⟨_, [], rfl, hline⟩
  | @more ls b line _ _ ih =>
    obtain ⟨header, rest, rfl, hheader⟩ := ih
    exact ⟨header, rest ++ [line], rfl, hheader⟩

/-- A block without an entry is text. -/
theorem Gathers.writtenIn (h : Gathers ls b) : b.toSection.WrittenIn ls := by
  rw [Block.toSection, h.content]
  obtain ⟨header, rest, rfl, hheader⟩ := h.exists_header
  cases hentry : readBlock (header :: rest).flatten with
  | none => exact .text (List.cons_ne_nil header rest)
  | some entry => exact .block hheader hentry

theorem Section.MadeOf.writtenIn (h : s.MadeOf ls) : s.WrittenIn ls := by
  cases h with
  | text hne => exact .text hne
  | block h => exact h.writtenIn

/-- Sections that are well cut are runs of lines, as these stand in a text. -/
theorem WellCut.exists_runs (h : WellCut ss) :
    ∃ runs, List.Forall₂ Section.WrittenIn ss runs ∧ Cut runs.flatten := by
  induction h with
  | nil => exact ⟨[], .nil, .nil⟩
  | @unclosed b ls h _ hcut =>
    refine ⟨[ls], .cons ?_ .nil, by simpa using hcut⟩
    rw [h.content]
    exact .text h.ne_nil
  | @last s ls h hcut => exact ⟨[ls], .cons h.writtenIn .nil, by simpa using hcut⟩
  | @cons s ls rest h hls _ ih =>
    obtain ⟨runs, hruns, hcut⟩ := ih
    refine ⟨ls :: runs, .cons h.writtenIn hruns, ?_⟩
    rw [List.flatten_cons]
    exact hcut.append hls

theorem writeSections_of_runs (h : List.Forall₂ Section.WrittenIn ss runs) :
    writeSections ss = runs.flatten.flatten := by
  induction h with
  | nil => rfl
  | cons hs _ ih =>
    rw [writeSections_cons, hs.content, ih, List.flatten_cons, List.flatten_append]

/-- **Each section is a run of lines, and the runs are all lines of the configuration.** -/
theorem exists_runs (config : Text) : ∃ runs,
    List.Forall₂ Section.WrittenIn (readSections config) runs ∧
      runs.flatten = wholeLines config := by
  obtain ⟨runs, hruns, hcut⟩ := (wellCut_readSections config).exists_runs
  refine ⟨runs, hruns, ?_⟩
  calc runs.flatten = wholeLines runs.flatten.flatten := hcut.wholeLines_flatten.symm
    _ = wholeLines (writeSections (readSections config)) := by rw [writeSections_of_runs hruns]
    _ = wholeLines config := by rw [writeSections_readSections]

theorem getLast?_flatten (hne : ls ≠ []) (hls : ∀ l ∈ ls, IsLine l) :
    ls.flatten.getLast? = some '\n' := by
  obtain ⟨front, l, rfl⟩ := (List.eq_nil_or_concat' ls).resolve_left hne
  have hl : l.getLast? = some '\n' := (isLine_iff.mp (hls l (by simp))).1
  rw [List.flatten_append, List.flatten_singleton, List.getLast?_append, hl, Option.some_or]

/-- Only the last section may lack its line feed. -/
theorem WellCut.getLast?_content (h : WellCut ss) :
    ∀ s ∈ ss.dropLast, s.content.getLast? = some '\n' := by
  induction h with
  | nil => exact List.forall_mem_nil _
  | unclosed => exact List.forall_mem_nil _
  | last => exact List.forall_mem_nil _
  | @cons s ls rest h hls _ ih =>
    cases rest with
    | nil => exact List.forall_mem_nil _
    | cons next rest =>
      rw [List.dropLast_cons_cons]
      refine List.forall_mem_cons.mpr ⟨?_, ih⟩
      rw [h.content]
      exact getLast?_flatten h.writtenIn.ne_nil hls

/-- **A configuration is split without loss, and its sections can be put together in any
selection.**  The texts of the sections make up the configuration; each of them is a run of whole
lines, that of an export begins with a header and gives the export's entry, and all but the last end
with a line feed.  If some sections are left out, reading what the others make up gives the entries
of the exports among them, in their order. -/
theorem split_without_loss (config : Text) :
    writeSections (readSections config) = config ∧
    (∃ runs, List.Forall₂ Section.WrittenIn (readSections config) runs ∧
      runs.flatten = wholeLines config) ∧
    (∀ s ∈ (readSections config).dropLast, s.content.getLast? = some '\n') ∧
    ∀ kept, kept.Sublist (readSections config) →
      readEntries (writeSections kept) = kept.filterMap Section.exported? := by
  have hcut := wellCut_readSections config
  refine ⟨writeSections_readSections config, exists_runs config, hcut.getLast?_content, ?_⟩
  intro kept hkept
  exact readEntries_writeSections (hcut.sublist hkept)

/-- Exports with text around them, a block without an entry and one that is not closed. -/
def patched : Text :=
  "# old\nEXPORT \x7b Export_Id = 1; Path = /a; \x7d\nexport \x7b\n\x7d\n" ++
    "EXPORT \x7b Export_Id = 2; Path = /b; \x7d\nEXPORT \x7b Path = /c;"

/-- The second export and the unclosed block. -/
def patchedTail : List Section :=
  [.block ⟨2, "/b", []⟩ "EXPORT \x7b Export_Id = 2; Path = /b; \x7d\n",
    .text "EXPORT \x7b Path = /c;"]

/-- What is left without the sections before the second export has its entry. -/
theorem split_without_loss_patched :
    Section.text "# old\n" ∈ (readSections patched).dropLast ∧
    (Section.text "# old\n").content.getLast? = some '\n' ∧
    patchedTail.Sublist (readSections patched) ∧
    readEntries (writeSections patchedTail) = [⟨2, "/b", []⟩] := by
  obtain ⟨-, -, hended, hkept⟩ := split_without_loss patched
  have hmem : Section.text "# old\n" ∈ (readSections patched).dropLast := by decide
  have htail : patchedTail.Sublist (readSections patched) := by decide
  exact ⟨hmem, hended _ hmem, htail, hkept _ htail⟩

end ShareAgent.Export
