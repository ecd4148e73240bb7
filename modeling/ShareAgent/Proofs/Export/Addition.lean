import ShareAgent.Export.Edit
import ShareAgent.Proofs.Export.Header

/-! # What an added block comes to

A new block is written behind whatever a configuration holds, and it is found there again unless the
end of the configuration *hides* it.  There are two such ends: a block with an entry whose last line
lacks its line feed, so that the first line of the new block becomes a part of it, and a block that
is left with an open brace, which swallows the new one.  Behind every other end, text or block,
malformed or not, the new entry follows the old ones (`readEntries_added`).
-/
namespace ShareAgent.Export
open Text

/-- A block with an entry ends the sections without a line feed. -/
def EndsInLine (ss : List Section) : Prop :=
  ∃ entry text, ss.getLast? = some (.block entry text) ∧ ¬ text.Ended

/-- The configuration ends with a block that has opened braces and not closed them. -/
def EndsInBlock (config : Text) : Prop :=
  ∃ b, blockAfter none (wholeLines config) = some b ∧ b.opened

/-- What is written behind the configuration is not found again. -/
def Hides (config : Text) : Prop := EndsInLine (readSections config) ∨ EndsInBlock config

variable {e : Entry} {b : Block} {s : Section} {ss : List Section} {ls : List Text} {t : Text}

theorem not_endsInLine_text (ss : List Section) (t : Text) : ¬ EndsInLine (ss ++ [.text t]) := by
  rintro ⟨entry, text, hlast, -⟩
  rw [List.getLast?_concat] at hlast
  cases Option.some.inj hlast

theorem not_endsInBlock {config : Text} (h : blockAfter none (wholeLines config) = none) :
    ¬ EndsInBlock config := by
  rintro ⟨b, hb, -⟩
  rw [h] at hb
  cases hb

/-! ## A line feed at the end -/

/-- The text with a line feed at its end. -/
def fed (t : Text) : Text := if t.getLast? = some '\n' then t else t ++ ['\n']

theorem endLine_text (t : Text) : endLine [.text t] = [.text (fed t)] := rfl

theorem endLine_cons (hss : ss ≠ []) (s : Section) : endLine (s :: ss) = s :: endLine ss := by
  cases ss with
  | nil => exact (hss rfl).elim
  | cons s' ss => cases s <;> rfl

/-- The last of the lines has its line feed, or it gets one. -/
theorem fed_flatten (hcut : Cut ls) (hne : ls ≠ []) :
    (∀ l ∈ ls, IsLine l) ∧ fed ls.flatten = ls.flatten ∨
      ∃ front last, ls = front ++ [last] ∧ (∀ l ∈ front, IsLine l) ∧ IsRest last ∧
        fed ls.flatten = (front ++ [last ++ ['\n']]).flatten := by
  obtain ⟨front, last, rfl⟩ : ∃ front last, ls = front ++ [last] :=
    ⟨_, _, (List.dropLast_append_getLast hne).symm⟩
  have hfront : ∀ l ∈ front, IsLine l := hcut.isLine_of_append (List.cons_ne_nil _ _)
  have hflat : (front ++ [last]).flatten = front.flatten ++ last := by simp
  rcases cut_cons.mp hcut.of_append_right with ⟨hlast, -⟩ | ⟨hlast, -⟩
  · refine .inr ⟨front, last, rfl, hfront, hlast, ?_⟩
    have hfeed : (front ++ [last]).flatten.getLast? ≠ some '\n' := by
      rw [hflat, List.getLast?_append, List.getLast?_eq_some_getLast hlast.1, Option.some_or]
      intro h
      exact hlast.2 (Option.some.inj h ▸ List.getLast_mem hlast.1)
    rw [fed, if_neg hfeed]
    simp
  · refine .inl ⟨List.forall_mem_append.mpr ⟨hfront, by simpa using hlast⟩, ?_⟩
    rw [fed, if_pos]
    rw [hflat, List.getLast?_append, (isLine_iff.mp hlast).1, Option.some_or]

/-- Text without blocks remains that. -/
theorem fed_plain (hcut : Cut ls) (hne : ls ≠ []) (hls : ∀ l ∈ ls, ¬ beginsBlock l) :
    ∃ lines : List Text, (∀ l ∈ lines, IsLine l) ∧ (∀ l ∈ lines, ¬ beginsBlock l) ∧
      fed ls.flatten = lines.flatten := by
  rcases fed_flatten hcut hne with ⟨hlines, hfed⟩ | ⟨front, last, rfl, hfront, hlast, hfed⟩
  · exact ⟨ls, hlines, hls, hfed⟩
  · obtain ⟨hplain, hrest⟩ := List.forall_mem_append.mp hls
    refine ⟨_, List.forall_mem_append.mpr ⟨hfront, ?_⟩, List.forall_mem_append.mpr ⟨hplain, ?_⟩,
      hfed⟩
    · exact List.forall_mem_singleton.mpr ⟨last, hlast.2, rfl⟩
    · rw [List.forall_mem_singleton] at hrest ⊢
      exact mt (beginsBlock_break (.inl rfl) last).mp hrest

/-- A block remains a block, as deep in braces and with the same entry. -/
theorem fed_block (hcut : Cut ls) (h : Gathers ls b) :
    ∃ lines content, (∀ l ∈ lines, IsLine l) ∧ Gathers lines { b with content := content } ∧
      readBlock content = readBlock b.content ∧ fed b.content = content := by
  rw [h.content]
  rcases fed_flatten hcut h.ne_nil with ⟨hlines, hfed⟩ | ⟨front, last, rfl, hfront, hlast, hfed⟩
  · exact ⟨ls, _, hlines, h.content ▸ h, rfl, hfed⟩
  · refine ⟨_, _, List.forall_mem_append.mpr ⟨hfront, ?_⟩, h.feed, ?_, ?_⟩
    · exact List.forall_mem_singleton.mpr ⟨last, hlast.2, rfl⟩
    · rw [readBlock_concat (by decide), h.content]
    · rw [hfed, h.content]
      simp

/-! ## The new block -/

theorem not_beginsBlock_bodyLines : ∀ l ∈ bodyLines e, ¬ beginsBlock l := by
  have hsettings : ∀ l ∈ settings e, ¬ beginsBlock l := by
    refine List.forall_mem_cons.mpr ⟨Bool.false_ne_true, ?_⟩
    refine List.forall_mem_cons.mpr ⟨Bool.false_ne_true, ?_⟩
    exact List.forall_mem_cons.mpr ⟨Bool.false_ne_true, by decide⟩
  exact List.forall_mem_cons.mpr ⟨by decide, List.forall_mem_append.mpr ⟨hsettings, by decide⟩⟩

section
variable (hpath : Clean e.path.text) (hpseudo : Clean e.pseudo)
include hpath hpseudo

/-- Behind whole lines and in no block the new entry is read. -/
theorem readEntries_append_render (hls : ∀ l ∈ ls, IsLine l) (hnone : blockAfter none ls = none) :
    readEntries (ls.flatten ++ e.render) = entriesFrom none ls ++ [e] := by
  have hnew : entriesFrom none (renderLines e) = [e] := by
    rw [(read_renderLines hpath.free hpseudo.free).1, asRead_eq_self hpath hpseudo]
  rw [readEntries_eq, wholeLines_flatten_append hls, entriesFrom_append, hnone,
    wholeLines_render hpath.free hpseudo.free, hnew]

/-- A block that is not closed becomes the new one, or keeps it if one of its braces is open. -/
theorem readEntries_append_render_unclosed (hls : ∀ l ∈ ls, IsLine l) (h : Gathers ls b)
    (hopen : ¬ b.isClosed) :
    readEntries (b.content ++ e.render) = if b.opened then [] else [e] := by
  have hblock := h.append_renderLines hpath.free hpseudo.free hopen
  have hentry : readBlock (b.content ++ e.render) = some e := by
    rw [h.content, readBlock_append_render hpath.free hpseudo.free (ended_flatten hls),
      asRead_eq_self hpath hpseudo]
  have hentries : readEntries (b.content ++ e.render) =
      closedEntry (some ⟨b.content ++ e.render, true, b.depth⟩) := by
    rw [← hblock.read.1, readEntries_eq, h.content, wholeLines_flatten_append hls,
      wholeLines_render hpath.free hpseudo.free]
  rw [hentries, closedEntry, hentry]
  cases hb : b.opened with
  | false => simp [Block.isClosed, h.depth_eq_zero hb]
  | true =>
    have hdepth : b.depth ≠ 0 := by simpa [Block.isClosed, hb] using hopen
    simp [Block.isClosed, hdepth]

/-- A block without its line feed takes the first line of the new one in, and the others are lost
with it. -/
theorem length_readEntries_append_render {front : List Text} {last : Text}
    (hfront : ∀ l ∈ front, IsLine l) (hlast : IsRest last) (h : Gathers (front ++ [last]) b)
    (hclosed : b.isClosed) : (readEntries (b.content ++ e.render)).length ≤ 1 := by
  have hglued : IsLine (last ++ ofString "EXPORT\n") := by
    refine ⟨last ++ ofString "EXPORT", ?_, by simp [ofString]⟩
    simp only [List.mem_append, not_or]
    exact ⟨hlast.2, by decide⟩
  have hlines : ∀ l ∈ front ++ [last ++ ofString "EXPORT\n"], IsLine l :=
    List.forall_mem_append.mpr ⟨hfront, List.forall_mem_singleton.mpr hglued⟩
  have hbody : ∀ l ∈ bodyLines e, IsLine l :=
    (List.forall_mem_cons.mp (isLine_renderLines hpath.free hpseudo.free)).2
  have hcontent : b.content ++ e.render =
      (front ++ [last ++ ofString "EXPORT\n"]).flatten ++ (bodyLines e).flatten := by
    rw [h.content, render_eq, renderLines]
    simp
  have hblock := h.extend_closed hclosed (x := ofString "EXPORT\n") (by decide)
  rw [hcontent, readEntries_eq, wholeLines_flatten_append hlines, wholeLines_flatten hbody,
    entriesFrom_append, (hblock.read_closed hclosed).1, (hblock.read_closed hclosed).2,
    (read_plain not_beginsBlock_bodyLines).1, List.append_nil]
  exact Option.length_toList_le

/-- What the end of some sections makes of a new block: they hide it, and then there are no more
entries than before, or it is read after them. -/
def Receives (e : Entry) (ss : List Section) : Prop :=
  ¬ (EndsInLine ss ∨ EndsInBlock (writeSections ss)) ∧
      readEntries (writeSections (endLine ss) ++ e.render) =
        ss.filterMap Section.exported? ++ [e] ∨
    (EndsInLine ss ∨ EndsInBlock (writeSections ss)) ∧
      (readEntries (writeSections (endLine ss) ++ e.render)).length ≤
        (ss.filterMap Section.exported?).length

theorem receives_nil : Receives e [] := by
  have hlines : ∀ l ∈ ([] : List Text), IsLine l := nofun
  refine .inl ⟨?_, readEntries_append_render hpath hpseudo hlines rfl⟩
  rintro (⟨entry, text, hlast, -⟩ | ⟨b, hb, -⟩)
  · cases hlast
  · cases hb

theorem receives_text (hcut : Cut ls) (hne : ls ≠ []) (hls : ∀ l ∈ ls, ¬ beginsBlock l) :
    Receives e [.text ls.flatten] := by
  obtain ⟨lines, hlines, hplain, hfed⟩ := fed_plain hcut hne hls
  have hread := readEntries_append_render hpath hpseudo hlines (read_plain hplain).2
  rw [(read_plain hplain).1, ← hfed] at hread
  refine .inl ⟨?_, ?_⟩
  · rintro (hline | hblock)
    · exact not_endsInLine_text [] _ hline
    · refine not_endsInBlock ?_ hblock
      rw [writeSections_text, hcut.wholeLines_flatten]
      exact (read_plain hls).2
  · rw [endLine_text, writeSections_text, hread]
    rfl

theorem receives_unclosed (hcut : Cut ls) (h : Gathers ls b) (hopen : ¬ b.isClosed) :
    Receives e [.text b.content] := by
  obtain ⟨lines, content, hlines, h', -, hfed⟩ := fed_block hcut h
  have hread := readEntries_append_render_unclosed hpath hpseudo hlines h' hopen
  have hafter : blockAfter none (wholeLines (writeSections [.text b.content])) = some b := by
    rw [writeSections_text, h.content, hcut.wholeLines_flatten]
    exact (h.read_open hopen).2
  rw [Receives, endLine_text, writeSections_text (fed _), hfed, hread]
  cases hb : b.opened with
  | false =>
    refine .inl ⟨?_, rfl⟩
    rintro (hline | ⟨b', hb', hopened⟩)
    · exact not_endsInLine_text [] _ hline
    · rw [hafter] at hb'
      rw [← Option.some.inj hb', hb] at hopened
      cases hopened
  | true => exact .inr ⟨.inr ⟨b, hafter, hb⟩, Nat.zero_le _⟩

/-- A malformed block is text, and gets its line feed. -/
theorem receives_malformed (hcut : Cut ls) (h : Gathers ls b) (hclosed : b.isClosed)
    (hentry : readBlock b.content = none) : Receives e [.text b.content] := by
  obtain ⟨lines, content, hlines, h', hsame, hfed⟩ := fed_block hcut h
  have hbefore := h'.read_closed hclosed
  have hread := readEntries_append_render hpath hpseudo hlines hbefore.2
  rw [hbefore.1, hsame, hentry, ← h'.content] at hread
  refine .inl ⟨?_, ?_⟩
  · rintro (hline | hblock)
    · exact not_endsInLine_text [] _ hline
    · refine not_endsInBlock ?_ hblock
      rw [writeSections_text, h.content, hcut.wholeLines_flatten]
      exact (h.read_closed hclosed).2
  · rw [endLine_text, writeSections_text, hfed, hread]
    rfl

/-- A block with an entry gets no line feed. -/
theorem receives_block {entry : Entry} (hcut : Cut ls) (h : Gathers ls b) (hclosed : b.isClosed)
    (hentry : readBlock b.content = some entry) : Receives e [.block entry b.content] := by
  have hwritten : writeSections (endLine [.block entry b.content]) = b.content :=
    List.append_nil _
  rcases fed_flatten hcut h.ne_nil with ⟨hlines, -⟩ | ⟨front, last, rfl, hfront, hlast, -⟩
  · have hbefore := h.read_closed hclosed
    have hread := readEntries_append_render hpath hpseudo hlines hbefore.2
    rw [hbefore.1, hentry, ← h.content] at hread
    refine .inl ⟨?_, ?_⟩
    · rintro (⟨_, text, hlast, hended⟩ | hblock)
      · obtain ⟨-, rfl⟩ := Section.block.inj (Option.some.inj hlast)
        exact hended (h.content ▸ ended_flatten hlines)
      · refine not_endsInBlock ?_ hblock
        rw [writeSections_cons, writeSections_nil, List.append_nil, Section.content, h.content,
          wholeLines_flatten hlines]
        exact hbefore.2
    · rw [hwritten, hread]
      rfl
  · have hended : ¬ b.content.Ended := by
      intro hended
      rw [h.content] at hended
      have hmem : last ∈ wholeLines (front ++ [last]).flatten := by
        rw [hcut.wholeLines_flatten]
        simp
      obtain ⟨body, -, rfl⟩ := isLine_of_ended hended last hmem
      exact hlast.2 (by simp)
    refine .inr ⟨.inl ⟨entry, b.content, rfl, hended⟩, ?_⟩
    rw [hwritten]
    exact length_readEntries_append_render hpath hpseudo hfront hlast h hclosed

theorem receives_closed (hcut : Cut ls) (h : Gathers ls b) (hclosed : b.isClosed) :
    Receives e [b.toSection] := by
  rw [Block.toSection]
  cases hentry : readBlock b.content with
  | none => exact receives_malformed hpath hpseudo hcut h hclosed hentry
  | some entry => exact receives_block hpath hpseudo hcut h hclosed hentry

omit hpath hpseudo in
/-- Only the end of the sections matters. -/
theorem Receives.cons {rest : List Section} (hrest : rest ≠ []) (h : s.MadeOf ls)
    (hls : ∀ l ∈ ls, IsLine l) (hr : Receives e rest) : Receives e (s :: rest) := by
  have hline : EndsInLine (s :: rest) ↔ EndsInLine rest := by
    obtain ⟨s', rest, rfl⟩ := List.exists_cons_of_ne_nil hrest
    rw [EndsInLine, EndsInLine, List.getLast?_cons_cons]
  have hblock : EndsInBlock (writeSections (s :: rest)) ↔ EndsInBlock (writeSections rest) := by
    rw [EndsInBlock, EndsInBlock, writeSections_cons, h.content, wholeLines_flatten_append hls,
      blockAfter_append, h.read.2]
  have hread : readEntries (writeSections (endLine (s :: rest)) ++ e.render) =
      s.exported?.toList ++ readEntries (writeSections (endLine rest) ++ e.render) := by
    rw [endLine_cons hrest, writeSections_cons, List.append_assoc, h.readEntries_append hls]
  have hentries : (s :: rest).filterMap Section.exported? =
      s.exported?.toList ++ rest.filterMap Section.exported? := by
    rw [List.filterMap_cons]
    cases s.exported? <;> rfl
  rw [Receives, hline, hblock, hread, hentries]
  rcases hr with ⟨hshown, heq⟩ | ⟨hhidden, hle⟩
  · exact .inl ⟨hshown, by rw [heq, List.append_assoc]⟩
  · refine .inr ⟨hhidden, ?_⟩
    rw [List.length_append, List.length_append]
    omega

theorem receives_last (hcut : Cut ls) (h : s.MadeOf ls) : Receives e [s] := by
  cases h with
  | text hne hls => exact receives_text hpath hpseudo hcut hne hls
  | block h hclosed => exact receives_closed hpath hpseudo hcut h hclosed

theorem receives (h : WellCut ss) : Receives e ss := by
  induction h with
  | nil => exact receives_nil hpath hpseudo
  | unclosed h hopen hcut => exact receives_unclosed hpath hpseudo hcut h hopen
  | last h hcut => exact receives_last hpath hpseudo hcut h
  | @cons s ls rest h hls _ ih =>
    -- A single section of whole lines may also be the last.
    by_cases hrest : rest = []
    · rw [hrest]
      exact receives_last hpath hpseudo (cut_of_isLine hls) h
    · exact ih.cons hrest h hls

/-- **A new entry is read behind the old ones, unless the end of the configuration hides it.** -/
theorem readEntries_added (config : Text) :
    readEntries (writeSections (endLine (readSections config) ++ [.block e e.render])) =
      readEntries config ++ [e] ↔ ¬ Hides config := by
  have hwritten : writeSections (endLine (readSections config) ++ [.block e e.render]) =
      writeSections (endLine (readSections config)) ++ e.render := by
    rw [writeSections_append, writeSections_cons, writeSections_nil, List.append_nil,
      Section.content]
  have hr := receives hpath hpseudo (wellCut_readSections config)
  rw [Receives, writeSections_readSections, ← Hides] at hr
  rw [hwritten]
  rcases hr with ⟨hshown, heq⟩ | ⟨hhidden, hle⟩
  · exact ⟨fun _ => hshown, fun _ => heq⟩
  · refine ⟨fun heq => ?_, fun hshown => (hshown hhidden).elim⟩
    rw [heq, readEntries, List.length_append, List.length_singleton] at hle
    omega

end

end ShareAgent.Export
