import Mathlib.Data.List.Induction
import Mathlib.Data.List.Infix
import ShareAgent.Proofs.Export.Progress

/-! # Comments

The values of a block are read from its lines without their comments, but its header and its braces
are found in the whole lines.  So comments change no value (`Fields.addLine_bare`), but a brace in
one counts, and a header with nothing but a comment after its word is none.  A reader of a
configuration and a reader of the same without comments (`strip`) find the same entries as long as
they are equally deep in braces (`KeepsStep.readEntries_strip`), and no longer, for they are told
apart by what may follow (`keepsStep_of_readEntries`).
-/
namespace ShareAgent.Export
open Text

variable {b b' : Block} {under under' : Option Block} {line t x : Text} {ls : List Text}

/-- What is not code: the comment with its mark, if there is one. -/
def comment (line : Text) : Text := line.dropWhile (· != commentMark)

/-- A line without its comment.  Its line break stays. -/
def bare (line : Text) : Text := code (dropBreak line) ++ line.drop (dropBreak line).length

/-- **A configuration without its comments.** -/
def strip (config : Text) : Text := ((wholeLines config).map bare).flatten

/-! ## A line without its comment -/

theorem code_append_comment (t : Text) : code t ++ comment t = t := List.takeWhile_append_dropWhile

theorem code_subset (t : Text) : code t ⊆ t := (List.takeWhile_prefix _).subset

theorem code_code (t : Text) : code (code t) = code t := List.takeWhile_idem

/-- A comment begins with its mark. -/
theorem comment_cases (t : Text) : comment t = [] ∨ ∃ tail, comment t = commentMark :: tail := by
  induction t with
  | nil => exact .inl rfl
  | cons c t ih =>
    by_cases hc : c = commentMark
    · exact .inr ⟨t, by simp [comment, hc]⟩
    · have hdrop : comment (c :: t) = comment t := by simp [comment, hc]
      rwa [hdrop]

/-- A line with its comment and without. -/
theorem bare_split (line : Text) : ∃ x, (x = [] ∨ IsBreak x) ∧
    line = code (dropBreak line) ++ comment (dropBreak line) ++ x ∧
      bare line = code (dropBreak line) ++ x := by
  obtain ⟨x, hline, hx⟩ := exists_break line
  refine ⟨x, hx, ?_, ?_⟩
  · rw [code_append_comment]
    exact hline
  · have hdrop : (dropBreak line ++ x).drop (dropBreak line).length = x := List.drop_left
    rw [← hline] at hdrop
    rw [bare, hdrop]

theorem exists_bare (hline : IsLine line) : ∃ body x, '\n' ∉ body ∧ IsBreak x ∧
    line = body ++ x ∧ bare line = code body ++ x := by
  obtain ⟨body, x, hbody, hx, rfl, hdrop⟩ := hline.exists_break
  exact ⟨body, x, hbody, hx, rfl, by rw [bare, hdrop, List.drop_left]⟩

theorem isLine_bare (hline : IsLine line) : IsLine (bare line) := by
  obtain ⟨body, x, hbody, hx, -, hbare⟩ := exists_bare hline
  rw [hbare]
  exact isLine_append_break (fun hmem => hbody (code_subset body hmem)) hx

theorem forall_isLine_bare (hls : ∀ l ∈ ls, IsLine l) : ∀ l ∈ ls.map bare, IsLine l :=
  List.forall_mem_map.mpr fun l hl => isLine_bare (hls l hl)

theorem bare_rest (ht : '\n' ∉ t) : bare t = code t := by
  rw [bare, dropBreak_rest ht, List.drop_length, List.append_nil]

theorem bare_eq_self (h : commentMark ∉ line) : bare line = line := by
  have hcode : code (dropBreak line) = dropBreak line :=
    code_eq_self fun hmem => h (dropBreak_subset line hmem)
  obtain ⟨x, -, hline, hbare⟩ := bare_split line
  have hcomment : comment (dropBreak line) = [] := by
    have hall := code_append_comment (dropBreak line)
    rwa [hcode, List.append_right_eq_self] at hall
  rw [hcomment, List.append_nil] at hline
  exact hbare.trans hline.symm

/-- Without its comment a line ends as it did before, with a line break if one is added. -/
theorem exists_bare_feed (ht : '\n' ∉ t) : ∃ x, IsBreak x ∧ bare (t ++ ['\n']) = bare t ++ x := by
  obtain ⟨body, x, hbody, hx, hline, hbare⟩ := exists_bare ⟨t, ht, rfl⟩
  rw [bare_rest ht, hbare]
  rcases hx with rfl | rfl
  · rw [List.append_cancel_right hline]
    exact ⟨_, .inl rfl, rfl⟩
  · -- The carriage return belongs to the line break now, and to the comment before if there is one.
    have hfeed : t ++ ['\n'] = body ++ ['\r'] ++ ['\n'] := by simpa using hline
    obtain rfl := List.append_cancel_right hfeed
    by_cases hmark : commentMark ∈ body
    · rw [code_concat_of_mem hmark]
      exact ⟨_, .inr rfl, rfl⟩
    · have hmark' : commentMark ∉ body ++ ['\r'] :=
        List.not_mem_append hmark (by decide)
      rw [code_eq_self hmark, code_eq_self hmark']
      exact ⟨_, .inl rfl, by simp⟩

/-- **Comments change no value.** -/
theorem Fields.addLine_bare (hline : IsLine line) (f : Fields) :
    f.addLine (bare line) = f.addLine line := by
  obtain ⟨body, x, hbody, hx, rfl, hbare⟩ := exists_bare hline
  have hcode : '\n' ∉ code body := fun hmem => hbody (code_subset body hmem)
  rw [hbare, addLine_break hcode hx, addLine_break hbody hx, addLine, addLine, statementsOf,
    statementsOf, dropBreak_rest hcode, dropBreak_rest hbody, code_code]

/-! ## Headers -/

theorem beginsBlock_append_end (hx : x = [] ∨ IsBreak x) (line : Text) :
    beginsBlock (line ++ x) ↔ beginsBlock line := by
  rcases hx with rfl | hx
  · rw [List.append_nil]
  · exact beginsBlock_break hx line

/-- A header is one without its comment. -/
theorem beginsBlock_bare (h : beginsBlock line) : beginsBlock (bare line) := by
  obtain ⟨x, hx, hline, hbare⟩ := bare_split line
  rw [hline, beginsBlock_append_end hx] at h
  rw [hbare, beginsBlock_append_end hx]
  rcases comment_cases (dropBreak line) with hnil | ⟨tail, hcomment⟩
  · rwa [hnil, List.append_nil] at h
  · rw [hcomment] at h
    refine beginsBlock_of_append_cons (by decide) (fun hblank => ?_) h
    -- The mark would be the first sign of the line.
    rw [beginsBlock_iff, trimStart_append_of_nil hblank] at h
    obtain ⟨word, rest, hstart, hword, -⟩ := h
    cases word with
    | nil => cases hword
    | cons c word =>
      obtain ⟨rfl, -⟩ := List.cons.inj hstart
      exact not_mem_of_blockWord hword (by decide) (.head _)

/-- A header that opens a brace is one with any comment. -/
theorem beginsBlock_of_bare (h : beginsBlock (bare line)) (hbrace : '\x7b' ∈ bare line) :
    beginsBlock line := by
  obtain ⟨x, hx, hline, hbare⟩ := bare_split line
  rw [hbare, beginsBlock_append_end hx] at h
  rw [hline, beginsBlock_append_end hx]
  refine beginsBlock_append h ?_ _
  rw [hbare] at hbrace
  rcases List.mem_append.mp hbrace with hcode | hend
  · exact hcode
  · rcases hx with rfl | hx
    · cases hend
    · exact ((plain_of_isBreak hx).1 hend).elim

/-! ## Readers in step -/

/-- Blocks with the same values are equally far after a line with its comment and without, if they
are equally deep then. -/
theorem Block.Running.alike_add_bare (h : b.Running) (h' : b'.Running)
    (hfields : b.progress.fields = b'.progress.fields) (hline : IsLine line)
    (hdepth : (stillOpen (some (b.add line))).map Block.depth =
      (stillOpen (some (b'.add (bare line)))).map Block.depth) :
    Alike (some (b.add line)) (some (b'.add (bare line))) := by
  have hbare : IsLine (bare line) := isLine_bare hline
  refine h.alike_add h' hline hbare ?_ ((h.add hline).shape_eq (h'.add hbare) hdepth)
  rw [Fields.addLine_bare hline, hfields]

/-- **One line.**  Readers that are equally far stay so if they stay equally deep. -/
theorem Alike.withLine_bare (h : Alike under under') (hline : IsLine line)
    (hdepth : (Export.stillOpen (Export.withLine under line)).map Block.depth =
      (Export.stillOpen (Export.withLine under' (bare line))).map Block.depth) :
    Alike (Export.withLine under line) (Export.withLine under' (bare line)) := by
  rcases h.cases with ⟨rfl, rfl⟩ | ⟨b, b', rfl, rfl, hb, hb', hprogress⟩
  · rw [Export.withLine, Export.withLine] at hdepth ⊢
    by_cases hbegins : beginsBlock line
    · rw [if_pos hbegins, if_pos (beginsBlock_bare hbegins)] at hdepth ⊢
      exact running_empty.alike_add_bare running_empty rfl hline hdepth
    · rw [if_neg hbegins] at hdepth ⊢
      by_cases hbare : beginsBlock (bare line)
      · -- A header that shows only without its comment opens a block that is not closed.
        have hbrace : '\x7b' ∉ bare line := fun hmem => hbegins (beginsBlock_of_bare hbare hmem)
        have hopen : ¬ (Block.empty.add (bare line)).isClosed := by
          simp [Block.isClosed, Block.add, Block.empty, hbrace]
        rw [if_pos hbare, Export.stillOpen, Export.stillOpen, if_neg hopen] at hdepth
        cases hdepth
      · rw [if_neg hbare]
        exact alike_none
  · exact hb.alike_add_bare hb' (progress_eq_iff.mp hprogress).1 hline hdepth

/-- **All lines.**  Readers that are equally deep after every line find the same. -/
theorem read_map_bare (hls : ∀ l ∈ ls, IsLine l)
    (hdepth : ∀ front, front <+: ls → depthAfter front = depthAfter (front.map bare)) :
    entriesFrom none ls = entriesFrom none (ls.map bare) ∧
      Alike (blockAfter none ls) (blockAfter none (ls.map bare)) := by
  -- From the first line on, so that both readers come to each line as the lines before left them.
  induction ls using List.reverseRecOn with
  | nil => exact ⟨rfl, alike_none⟩
  | append_singleton ls line ih =>
    obtain ⟨hfront, hlast⟩ := List.forall_mem_append.mp hls
    have hline : IsLine line := hlast line (.head _)
    obtain ⟨hentries, hunder⟩ :=
      ih hfront fun front hpre => hdepth front (hpre.trans (List.prefix_append _ _))
    have hstep := hdepth (ls ++ [line]) List.prefix_rfl
    rw [List.map_append, List.map_singleton, depthAfter_concat, depthAfter_concat] at hstep
    have hnext := hunder.withLine_bare hline hstep
    rw [List.map_append, List.map_singleton, entriesFrom_append, entriesFrom_append,
      entriesFrom_singleton, entriesFrom_singleton, blockAfter_append, blockAfter_append]
    exact ⟨by rw [hentries, hnext.closedEntry_eq], hnext.stillOpen⟩

/-! ## Configurations without comments -/

variable {s config : Text}

theorem strip_append (hs : Ended s) (t : Text) : strip (s ++ t) = strip s ++ strip t := by
  rw [strip, wholeLines_append hs, List.map_append, List.flatten_append, ← strip, ← strip]

theorem strip_eq_self (ht : commentMark ∉ t) : strip t = t := by
  have hbare : (wholeLines t).map bare = wholeLines t := by
    refine (List.map_congr_left fun line hline => ?_).trans (List.map_id _)
    refine bare_eq_self fun hmem => ht ?_
    rw [← flatten_wholeLines t]
    exact List.mem_flatten_of_mem hline hmem
  rw [strip, hbare, flatten_wholeLines]

theorem wholeLines_strip (ht : Ended t) : wholeLines (strip t) = (wholeLines t).map bare :=
  wholeLines_flatten (forall_isLine_bare (isLine_of_ended ht))

theorem ended_strip (ht : Ended t) : Ended (strip t) :=
  ended_flatten (forall_isLine_bare (isLine_of_ended ht))

/-- **A reader keeps step.**  After every line it is in a block with the comments as it is without,
and equally deep in braces. -/
def KeepsStep (config : Text) : Prop :=
  ∀ front, front <+: wholeLines config → depthAfter front = depthAfter (front.map bare)

/-- A text in whole lines that a reader keeps step with goes on with what is found without the
comments. -/
theorem KeepsStep.readEntries_append (h : KeepsStep s) (hs : Ended s) (t : Text) :
    readEntries (strip s ++ t) = readEntries (s ++ t) := by
  obtain ⟨hentries, hunder⟩ := read_map_bare (isLine_of_ended hs) h
  rw [Export.readEntries_append (ended_strip hs), Export.readEntries_append hs, readEntries_eq,
    readEntries_eq, wholeLines_strip hs, hentries, hunder.entriesFrom_eq (cut_wholeLines t)]

/-- A last line with a line break is as deep as it is without. -/
theorem KeepsStep.feed {front : List Text} (hfront : ∀ l ∈ front, IsLine l) (ht : IsRest t)
    (h : KeepsStep (front.flatten ++ t)) : KeepsStep (front.flatten ++ (t ++ ['\n'])) := by
  have hline : IsLine (t ++ ['\n']) := ⟨t, ht.2, rfl⟩
  obtain ⟨x, hx, hbare⟩ := exists_bare_feed ht.2
  rw [KeepsStep, wholeLines_flatten_append hfront, wholeLines_last ht] at h
  rw [KeepsStep, wholeLines_flatten_append hfront, hline.wholeLines_eq]
  intro lines hlines
  rcases List.prefix_concat_iff.mp hlines with rfl | hlines
  · have hlast := h _ List.prefix_rfl
    rw [List.map_append, List.map_singleton] at hlast ⊢
    rw [hbare, depthAfter_break hx, depthAfter_break (.inl rfl), hlast]
  · exact h lines (hlines.trans (List.prefix_append _ _))

/-- **A reader that keeps step finds the same entries without the comments.** -/
theorem KeepsStep.readEntries_strip (h : KeepsStep config) :
    readEntries (strip config) = readEntries config := by
  by_cases hended : Ended config
  · simpa using h.readEntries_append hended []
  · obtain ⟨front, t, hfront, ht, rfl⟩ := exists_rest hended
    obtain ⟨x, hx, hbare⟩ := exists_bare_feed ht.2
    have hline : IsLine (t ++ ['\n']) := ⟨t, ht.2, rfl⟩
    have hwhole : Ended (front.flatten ++ (t ++ ['\n'])) :=
      (ended_flatten hfront).append hline.ended
    have hstrip : strip (front.flatten ++ (t ++ ['\n'])) = strip (front.flatten ++ t) ++ x := by
      have hlast : strip (t ++ ['\n']) = strip t ++ x := by
        simp [strip, hline.wholeLines_eq, wholeLines_last ht, hbare]
      rw [strip_append (ended_flatten hfront), strip_append (ended_flatten hfront), hlast,
        List.append_assoc]
    have hfed := (h.feed hfront ht).readEntries_append hwhole []
    rw [List.append_nil, List.append_nil, hstrip, readEntries_break hx, ← List.append_assoc,
      readEntries_break (.inl rfl)] at hfed
    exact hfed

/-- A beginning in whole lines. -/
theorem KeepsStep.of_prefix (h : KeepsStep config) (hs : Ended s) (hpre : s <+: config) :
    KeepsStep s := by
  obtain ⟨t, rfl⟩ := hpre
  intro front hfront
  refine h front (hfront.trans ?_)
  rw [wholeLines_append hs]
  exact List.prefix_append _ _

/-- A reader that does not keep step finds other entries without the comments before some text. -/
theorem keepsStep_of_readEntries (hended : Ended config)
    (h : ∀ s t, s <+: config → Ended s → commentMark ∉ t →
      readEntries (strip (s ++ t)) = readEntries (s ++ t)) : KeepsStep config := by
  intro front hfront
  have hlines : ∀ l ∈ front, IsLine l := fun l hl => isLine_of_ended hended l (hfront.subset hl)
  have hpre : front.flatten <+: config := by
    have hflat := hfront.flatten
    rwa [flatten_wholeLines] at hflat
  have hs : Ended front.flatten := ended_flatten hlines
  have hboth (t : Text) (ht : commentMark ∉ t) :
      entriesFrom none (front.map bare) ++
          entriesFrom (blockAfter none (front.map bare)) (wholeLines t) =
        entriesFrom none front ++ entriesFrom (blockAfter none front) (wholeLines t) := by
    have hread := h front.flatten t hpre hs ht
    rw [strip_append hs, strip_eq_self ht, Export.readEntries_append (ended_strip hs),
      Export.readEntries_append hs, readEntries_eq, readEntries_eq, wholeLines_strip hs,
      wholeLines_flatten hlines] at hread
    exact hread
  -- What was found before is the same, so what the probes add is.
  have hfound := hboth [] List.not_mem_nil
  rw [wholeLines, entriesFrom, entriesFrom, List.append_nil, List.append_nil] at hfound
  refine depth_eq_of_probe (fun b => running_of_blockAfter hlines)
    (fun b => running_of_blockAfter (forall_isLine_bare hlines)) fun d => ?_
  have hprobe := hboth (probe d).flatten (mark_not_mem_probe d)
  rw [wholeLines_flatten (isLine_probe d), hfound] at hprobe
  exact (List.append_cancel_left hprobe).symm

/-! ## Comments that are not seen -/

/-- The comment of the line makes no difference to a reader: it has no braces and hides no header,
or the reader is between blocks and the line is not even a header without it. -/
def Quiet (under : Option Block) (line : Text) : Prop :=
  (Plain (comment (dropBreak line)) ∧
      (under = none → beginsBlock (bare line) → beginsBlock line)) ∨
    (under = none ∧ ¬ beginsBlock (bare line))

/-- A comment without braces opens and closes none. -/
theorem Block.add_bare (h : Plain (comment (dropBreak line))) (b : Block) :
    (b.add line).opened = (b.add (bare line)).opened ∧
      (b.add line).depth = (b.add (bare line)).depth := by
  obtain ⟨hopen, hclose⟩ := h
  obtain ⟨x, -, hline, hbare⟩ := bare_split line
  rw [hbare]
  constructor
  · conv_lhs => rw [hline]
    simp [add, hopen]
  · conv_lhs => rw [hline]
    simp [add, List.count_append, List.count_eq_zero.mpr hopen, List.count_eq_zero.mpr hclose]

theorem depth_stillOpen (hopened : b.opened = b'.opened) (hdepth : b.depth = b'.depth) :
    (stillOpen (some b)).map Block.depth = (stillOpen (some b')).map Block.depth := by
  have hclosed : b.isClosed = b'.isClosed := by rw [Block.isClosed, Block.isClosed, hopened, hdepth]
  rw [stillOpen, stillOpen, hclosed]
  by_cases h : b'.isClosed
  · rw [if_pos h, if_pos h]
  · rw [if_neg h, if_neg h]
    exact congrArg some hdepth

/-- A quiet comment leaves readers that are equally far equally deep. -/
theorem Alike.depth_eq_of_quiet (h : Alike under under') (hquiet : Quiet under line) :
    (Export.stillOpen (Export.withLine under line)).map Block.depth =
      (Export.stillOpen (Export.withLine under' (bare line))).map Block.depth := by
  rcases h.cases with ⟨rfl, rfl⟩ | ⟨b, b', rfl, rfl, -, -, hprogress⟩
  · rw [Export.withLine, Export.withLine]
    rcases hquiet with ⟨hplain, hheader⟩ | ⟨-, hbare⟩
    · by_cases hbegins : beginsBlock line
      · rw [if_pos hbegins, if_pos (beginsBlock_bare hbegins)]
        obtain ⟨hopened, hdepth⟩ := Block.add_bare hplain Block.empty
        exact depth_stillOpen hopened hdepth
      · rw [if_neg hbegins, if_neg (mt (hheader rfl) hbegins)]
    · rw [if_neg hbare, if_neg (mt beginsBlock_bare hbare)]
  · have hplain : Plain (comment (dropBreak line)) := by
      rcases hquiet with ⟨hplain, -⟩ | ⟨hnone, -⟩
      · exact hplain
      · cases hnone
    obtain ⟨hopened, hdepth⟩ := Block.add_bare hplain b
    obtain ⟨hopened', hdepth'⟩ := Block.add_of_progress hprogress (bare line)
    exact depth_stillOpen (hopened.trans hopened') (hdepth.trans hdepth')

/-- **Quiet comments only.**  Then a reader keeps step. -/
theorem keepsStep_of_quiet (h : ∀ front line rest, wholeLines config = front ++ line :: rest →
    Quiet (blockAfter none front) line) : KeepsStep config := by
  have hsteps (ls : List Text) (hls : ls <+: wholeLines config) :
      ∀ front, front <+: ls → depthAfter front = depthAfter (front.map bare) := by
    induction ls using List.reverseRecOn with
    | nil =>
      intro front hfront
      rw [List.prefix_nil.mp hfront]
      rfl
    | append_singleton ls line ih =>
      have hbefore := ih ((List.prefix_append _ _).trans hls)
      intro front hfront
      rcases List.prefix_concat_iff.mp hfront with rfl | hfront
      · obtain ⟨rest, hrest⟩ := hls
        rw [List.append_assoc, List.singleton_append] at hrest
        have hcut : Cut (ls ++ line :: rest) := hrest ▸ cut_wholeLines config
        have hlines : ∀ l ∈ ls, IsLine l := hcut.isLine_of_append (List.cons_ne_nil _ _)
        have hunder := (read_map_bare hlines hbefore).2
        rw [List.map_append, List.map_singleton, depthAfter_concat, depthAfter_concat]
        exact hunder.depth_eq_of_quiet (h ls line rest hrest.symm)
      · exact hbefore front hfront
  exact hsteps _ List.prefix_rfl

/-! ## What comments change -/

/-- **Comments are not seen as long as a reader keeps step, and no longer.**  Then the entries are
the same without them, and so they are with any text without comments behind any part of the
configuration in whole lines; a reader that does not keep step finds other entries behind some part.
Comments that have no braces and hide no header, and comments between blocks, are never seen. -/
theorem strip_keeps_entries (config : Text) :
    (KeepsStep config → readEntries (strip config) = readEntries config) ∧
      (Ended config → (KeepsStep config ↔ ∀ s t, s <+: config → Ended s → commentMark ∉ t →
        readEntries (strip (s ++ t)) = readEntries (s ++ t))) ∧
      ((∀ front line rest, wholeLines config = front ++ line :: rest →
        Quiet (blockAfter none front) line) → KeepsStep config) := by
  refine ⟨KeepsStep.readEntries_strip, fun hended => ⟨fun h s t hpre hs ht => ?_, ?_⟩,
    keepsStep_of_quiet⟩
  · rw [strip_append hs, strip_eq_self ht]
    exact (h.of_prefix hs hpre).readEntries_append hs t
  · exact keepsStep_of_readEntries hended

/-- A brace in a comment keeps a block open that is closed without it, and a comment after the word
hides a header. -/
theorem strip_shows_entries :
    (readEntries "EXPORT \x7b # \x7b\nExport_Id = 1;\nPath = /a;\n\x7d\n" = [] ∧
      readEntries (strip "EXPORT \x7b # \x7b\nExport_Id = 1;\nPath = /a;\n\x7d\n") =
        [⟨1, ⟨"/a"⟩, ""⟩]) ∧
    (readEntries "EXPORT # a\n\x7b\nExport_Id = 1;\nPath = /a;\n\x7d\n" = [] ∧
      readEntries (strip "EXPORT # a\n\x7b\nExport_Id = 1;\nPath = /a;\n\x7d\n") =
        [⟨1, ⟨"/a"⟩, ""⟩]) := by
  decide

end ShareAgent.Export
