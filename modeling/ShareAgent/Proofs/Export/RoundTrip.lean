import ShareAgent.Proofs.Export.Render
import ShareAgent.Proofs.Path.Components

/-! # Which entries are read back

A value that is read, from whatever configuration, is free of the signs that end a line, a statement
or a block, or begin a comment (`free_of_mem_readEntries`): no text that holds one of them can put
itself together again from several statements.  So an entry that is read back from its block has free
values; then its block is read as one entry whose values lack the blanks and quotation marks at their
ends (`readEntries_render`), and these are the values of the entry only if there were none.  For a
path this needs that blanks and quotation marks are never left out in another spelling of it.
-/
namespace ShareAgent.Export
open Text ShareAgent.Path

variable {e : Entry} {t s : Text} {config : Text} {f : Fields} {ls : List Text}

/-! ## Every value that is read is free -/

theorem Free.subset (ht : Free t) (hs : ∀ c ∈ s, c ∈ t) : Free s :=
  free_iff.mpr fun c hc => free_iff.mp ht c (hs c hc)

theorem mem_code {c : Char} (hc : c ∈ code t) : c ∈ t ∧ c ≠ commentMark := by
  refine ⟨(List.takeWhile_prefix _).subset hc, ?_⟩
  simpa using List.all_eq_true.mp List.all_takeWhile c hc

theorem free_of_mem_statements (hs : s ∈ statements t) : Free s := by
  obtain ⟨line, hline, hs⟩ := List.mem_flatMap.mp hs
  obtain ⟨whole, hwhole, rfl⟩ := List.mem_map.mp hline
  refine free_iff.mpr fun c hc => ?_
  obtain ⟨hcode, hends⟩ := mem_of_mem_pieces hs hc
  obtain ⟨hmem, hcomment⟩ := mem_code hcode
  refine ⟨?_, hcomment, hends⟩
  rintro rfl
  exact feed_not_mem_dropBreak hwhole hmem

/-- What stands behind the first mark stands in the text. -/
theorem mem_of_cut {mark : Char} {front back : Text} (h : cut mark t = some (front, back)) :
    ∀ c ∈ back, c ∈ t := by
  obtain ⟨-, rfl⟩ := cut_eq_some_iff.mp h
  exact fun c hc => List.mem_append_right _ (.tail _ hc)

theorem isSign_of_isBlank {c : Char} (hc : isBlank c) : isSign c := by
  simp only [isSign, Bool.and_eq_true, bne_iff_ne]
  constructor <;> rintro rfl <;> cases hc

/-- A value lacks only blanks and quotation marks at its ends. -/
theorem value_split (t : Text) : ∃ front back, t = front ++ value t ++ back ∧
    (∀ c ∈ front, isSign c) ∧ ∀ c ∈ back, isSign c := by
  have hquote : ∀ c : Char, (c == '"') = true → isSign c = true := by
    intro c hc
    obtain rfl := eq_of_beq hc
    rfl
  obtain ⟨front, back, ht, hfront, hback⟩ := trimBy_split isBlank t
  obtain ⟨front', back', htrim, hfront', hback'⟩ := trimBy_split (· == '"') (trim t)
  refine ⟨front ++ front', back' ++ back, ?_, ?_, ?_⟩
  · calc t = front ++ trim t ++ back := ht
      _ = front ++ (front' ++ value t ++ back') ++ back := by rw [value, trimQuotes, ← htrim]
      _ = front ++ front' ++ value t ++ (back' ++ back) := by simp only [List.append_assoc]
  · exact List.forall_mem_append.mpr
      ⟨fun c hc => isSign_of_isBlank (hfront c hc), fun c hc => hquote c (hfront' c hc)⟩
  · exact List.forall_mem_append.mpr
      ⟨fun c hc => hquote c (hback' c hc), fun c hc => isSign_of_isBlank (hback c hc)⟩

theorem Free.value (ht : Free t) : Free (value t) := by
  obtain ⟨front, back, hsplit, -, -⟩ := value_split t
  refine ht.subset fun c hc => ?_
  rw [hsplit]
  exact List.mem_append_left _ (List.mem_append_right _ hc)

/-- The values that were given are free. -/
structure Fields.AllFree (f : Fields) : Prop where
  path : ∀ p, f.path = some p → Free p.text
  pseudo : ∀ t, f.pseudo = some t → Free t

namespace Fields.AllFree

theorem set (hf : f.AllFree) (key : Text) (ht : Free t) : (f.set key t).AllFree := by
  rw [Fields.set]
  by_cases hid : key = "export_id"
  · rw [if_pos hid]
    exact ⟨hf.path, hf.pseudo⟩
  rw [if_neg hid]
  by_cases hpath : key = "path"
  · rw [if_pos hpath]
    refine ⟨fun p hp => ?_, hf.pseudo⟩
    rw [← Option.some.inj hp]
    exact ht
  rw [if_neg hpath]
  by_cases hpseudo : key = "pseudo"
  · rw [if_pos hpseudo]
    refine ⟨hf.path, fun s hs => ?_⟩
    rw [← Option.some.inj hs]
    exact ht
  · rw [if_neg hpseudo]
    exact hf

theorem add (hf : f.AllFree) (ht : Free t) : (f.add t).AllFree := by
  rw [Fields.add]
  cases hcut : cut '=' t with
  | none => exact hf
  | some parts => exact hf.set _ (ht.subset (mem_of_cut hcut)).value

theorem foldl (hf : f.AllFree) (hls : ∀ s ∈ ls, Free s) : (ls.foldl Fields.add f).AllFree := by
  induction ls generalizing f with
  | nil => exact hf
  | cons s ls ih =>
    obtain ⟨hs, hrest⟩ := List.forall_mem_cons.mp hls
    exact ih (hf.add hs) hrest

theorem of_complete (hf : f.AllFree) (h : f.complete? = some e) :
    Free e.path.text ∧ Free e.pseudo := by
  obtain ⟨_ | id, _ | path, pseudo⟩ := f
  · cases h
  · cases h
  · cases h
  · obtain rfl := Option.some.inj h
    refine ⟨hf.path path rfl, ?_⟩
    cases pseudo with
    | none => exact free_iff.mpr (List.forall_mem_nil _)
    | some pseudo => exact hf.pseudo pseudo rfl

end Fields.AllFree

theorem free_of_readBlock (h : readBlock t = some e) : Free e.path.text ∧ Free e.pseudo := by
  have hnone : Fields.none.AllFree := ⟨fun _ hp => (nomatch hp), fun _ hs => (nomatch hs)⟩
  exact (hnone.foldl fun s hs => free_of_mem_statements hs).of_complete h

theorem exists_block_of_mem {under : Option Block} (he : e ∈ entriesFrom under ls) :
    ∃ t, readBlock t = some e := by
  induction ls generalizing under with
  | nil => cases he
  | cons line rest ih =>
    rw [entriesFrom] at he
    rcases List.mem_append.mp he with he | he
    · cases hb : withLine under line with
      | none => rw [hb] at he; cases he
      | some b =>
        rw [hb, closedEntry] at he
        by_cases hclosed : b.isClosed
        · rw [if_pos hclosed] at he
          exact ⟨b.content, Option.mem_toList.mp he⟩
        · rw [if_neg hclosed] at he
          cases he
    · exact ih he

/-- **The values of every configuration are free.** -/
theorem free_of_mem_readEntries (he : e ∈ readEntries config) :
    Free e.path.text ∧ Free e.pseudo := by
  rw [readEntries_eq] at he
  obtain ⟨t, ht⟩ := exists_block_of_mem he
  exact free_of_readBlock ht

/-! ## A rendered block -/

/-- A block with free values is one entry. -/
theorem readEntries_render (hpath : Free e.path.text) (hpseudo : Free e.pseudo) :
    readEntries e.render = [e.asRead] := by
  rw [readEntries_eq, wholeLines_render hpath hpseudo, (read_renderLines hpath hpseudo).1]

theorem asRead_same_iff : e.asRead.same e ↔ value e.path.text = e.path.text ∧
    value e.pseudo = e.pseudo := by
  simp only [Entry.same, Entry.asRead, Bool.and_eq_true, beq_self_eq_true, true_and, beq_iff_eq]
  refine and_congr_left fun _ => ⟨fun hsame => ?_, fun hkept => ?_⟩
  · obtain ⟨front, back, hsplit, hfront, hback⟩ := value_split e.path.text
    have hends : same ⟨value e.path.text⟩ ⟨front ++ value e.path.text ++ back⟩ := by
      rw [← hsplit]
      exact hsame
    obtain ⟨rfl, rfl⟩ := eq_of_same_middle hfront hback hends
    simpa using hsplit.symm
  · rw [hkept]
    exact same_self _

/-- Another spelling of a free path is free. -/
theorem free_of_same {p q : Path} (h : p.same q) (hp : Free p.text) : Free q.text := by
  have hback : q.same p := same_symm h
  obtain ⟨hfeed, hcomment, hsemi, hopen, hclose⟩ := hp
  exact ⟨fun hmem => hfeed (mem_of_same hback (by decide) hmem),
    fun hmem => hcomment (mem_of_same hback (by decide) hmem),
    fun hmem => hsemi (mem_of_same hback (by decide) hmem),
    fun hmem => hopen (mem_of_same hback (by decide) hmem),
    fun hmem => hclose (mem_of_same hback (by decide) hmem)⟩

/-- **Exactly the clean entries are read back from their blocks.** -/
theorem readEntries_render_iff (e : Entry) :
    (∃ found, readEntries e.render = [found] ∧ found.same e) ↔
      Clean e.path.text ∧ Clean e.pseudo := by
  constructor
  · rintro ⟨found, hread, hsame⟩
    -- Whatever the block was read as, its values are free, and so are those of the entry.
    have hmem : found ∈ readEntries e.render := by
      rw [hread]
      exact .head _
    obtain ⟨hfoundPath, hfoundPseudo⟩ := free_of_mem_readEntries hmem
    obtain ⟨hsamePath, hsamePseudo⟩ : found.path.same e.path ∧ found.pseudo = e.pseudo := by
      simp only [Entry.same, Bool.and_eq_true, beq_iff_eq] at hsame
      exact ⟨hsame.1.2, hsame.2⟩
    have hpath : Free e.path.text := free_of_same hsamePath hfoundPath
    have hpseudo : Free e.pseudo := hsamePseudo ▸ hfoundPseudo
    -- So the block is one of free values, and what was found is known.
    rw [readEntries_render hpath hpseudo] at hread
    obtain rfl := List.singleton_inj.mp hread
    obtain ⟨hkeptPath, hkeptPseudo⟩ := asRead_same_iff.mp hsame
    exact ⟨clean_iff.mpr ⟨hpath, hkeptPath⟩, clean_iff.mpr ⟨hpseudo, hkeptPseudo⟩⟩
  · rintro ⟨hpath, hpseudo⟩
    refine ⟨e.asRead, readEntries_render hpath.free hpseudo.free, asRead_same_iff.mpr ?_⟩
    exact ⟨hpath.kept, hpseudo.kept⟩

end ShareAgent.Export
