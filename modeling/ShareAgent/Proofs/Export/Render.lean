import ShareAgent.Proofs.Export.Sections
import ShareAgent.Proofs.Export.Statements
import ShareAgent.Proofs.Text.Numeral

/-! # A rendered block is read back

A block is rendered line by line (`renderLines`).  If its path and its name are *free* of the signs
that mean something in a block, each of the lines is one, three of them set the values of the entry,
and the others set none (`foldl_renderLines`); a reader then finds the entry with what it takes away
at the ends of a value (`Entry.asRead`), and the entry itself if they are *clean*.  The braces of the
block balance, so after it a reader is as deep in braces as it was before
(`Gathers.append_renderLines`): it closes the block if it was in none (`read_renderLines`), and
otherwise what was written on the lines before it does not matter.
-/
namespace ShareAgent.Export
open Text

/-- **A value that can be written.**  It stays on its line and in its statement, and it has nothing
at its ends that a reader takes away. -/
structure Clean (t : Text) : Prop where
  free : '\n' ∉ t ∧ '#' ∉ t ∧ ';' ∉ t ∧ '\x7b' ∉ t ∧ '\x7d' ∉ t
  kept : trimQuotes (trim t) = t

/-- The text has none of the signs that end a line, a statement or a block, or begin a comment. -/
def Free (t : Text) : Prop := '\n' ∉ t ∧ '#' ∉ t ∧ ';' ∉ t ∧ '\x7b' ∉ t ∧ '\x7d' ∉ t

instance : DecidablePred Free := fun t =>
  inferInstanceAs (Decidable ('\n' ∉ t ∧ '#' ∉ t ∧ ';' ∉ t ∧ '\x7b' ∉ t ∧ '\x7d' ∉ t))

theorem clean_iff {t : Text} : Clean t ↔ Free t ∧ value t = t :=
  ⟨fun h => ⟨h.free, h.kept⟩, fun h => ⟨h.1, h.2⟩⟩

instance : DecidablePred Clean := fun _ => decidable_of_iff' _ clean_iff

/-- The name of a setting: one word without signs that mean something in a block. -/
def IsKey (key : Text) : Prop :=
  ∀ c ∈ key, c ≠ '\n' ∧ c ≠ commentMark ∧ endsStatement c = false ∧ c ≠ '=' ∧ isBlank c = false

-- Named, so that the signs are never searched for among all characters instead.
instance : DecidablePred IsKey := fun key => List.decidableBAll _ key

/-- The statement that gives a setting its value. -/
def assignment (key v : Text) : Text := '\t' :: key ++ [' ', '=', ' '] ++ v

/-- The line of that statement. -/
def setting (key v : Text) : Text := assignment key v ++ [';'] ++ ['\n']

/-- The settings of a rendered block. -/
def settings (e : Entry) : List Text :=
  [setting "Export_Id" (ofNat e.id.toNat), setting "Path" e.path.text, setting "Pseudo" e.pseudo,
    setting "Access_Type" "RW", setting "Squash" "No_root_squash", setting "SecType" "sys",
    setting "Protocols" "4", setting "Transports" "TCP"]

/-- The lines after the settings. -/
def closingLines : List Text :=
  ["\tFSAL \x7b\n", '\t' :: setting "Name" "VFS", "\t\x7d\n", "\x7d\n"]

/-- The lines of a rendered block after its first. -/
def bodyLines (e : Entry) : List Text := ofString "\x7b\n" :: (settings e ++ closingLines)

/-- The lines of a rendered block. -/
def renderLines (e : Entry) : List Text := ofString "EXPORT\n" :: bodyLines e

theorem render_eq (e : Entry) : e.render = (renderLines e).flatten := by
  simp [Entry.render, renderLines, bodyLines, settings, closingLines, setting, assignment, ofString]

variable {e : Entry} {b : Block} {line key v : Text} {ls : List Text}

/-! ## Settings -/

theorem endsStatement_eq_false {c : Char} :
    endsStatement c = false ↔ c ≠ ';' ∧ c ≠ '\x7b' ∧ c ≠ '\x7d' := by
  simp [endsStatement, and_assoc]

theorem free_iff :
    Free v ↔ ∀ c ∈ v, c ≠ '\n' ∧ c ≠ commentMark ∧ endsStatement c = false := by
  simp only [endsStatement_eq_false]
  constructor
  · rintro ⟨hfeed, hcomment, hsemi, hopen, hclose⟩ c hc
    refine ⟨?_, ?_, ?_, ?_, ?_⟩ <;> rintro rfl <;> contradiction
  · intro hall
    exact ⟨fun h => (hall _ h).1 rfl, fun h => (hall _ h).2.1 rfl, fun h => (hall _ h).2.2.1 rfl,
      fun h => (hall _ h).2.2.2.1 rfl, fun h => (hall _ h).2.2.2.2 rfl⟩

theorem forall_mem_assignment (hkey : IsKey key) (hv : Free v) :
    ∀ c ∈ assignment key v, c ≠ '\n' ∧ c ≠ commentMark ∧ endsStatement c = false := by
  intro c hc
  simp only [assignment, List.mem_append, List.mem_cons, List.not_mem_nil, or_false] at hc
  rcases hc with ((rfl | hkc) | rfl | rfl | rfl) | hvc
  · decide
  · exact ⟨(hkey c hkc).1, (hkey c hkc).2.1, (hkey c hkc).2.2.1⟩
  · decide
  · decide
  · decide
  · exact free_iff.mp hv c hvc

/-- Neither the semicolon nor what stands before it breaks the line or begins a comment. -/
theorem forall_mem_statement (hkey : IsKey key) (hv : Free v) :
    ∀ c ∈ assignment key v ++ [';'], c ≠ '\n' ∧ c ≠ commentMark := by
  refine List.forall_mem_append.mpr
    ⟨fun c hc => ?_, List.forall_mem_singleton.mpr (by decide)⟩
  obtain ⟨hfeed, hcomment, -⟩ := forall_mem_assignment hkey hv c hc
  exact ⟨hfeed, hcomment⟩

theorem isLine_setting (hkey : IsKey key) (hv : Free v) : IsLine (setting key v) :=
  ⟨_, fun hmem => (forall_mem_statement hkey hv _ hmem).1 rfl, rfl⟩

theorem statementsOf_setting (hkey : IsKey key) (hv : Free v) :
    statementsOf (setting key v) = [assignment key v, []] := by
  have hbreak : dropBreak (setting key v) = assignment key v ++ [';'] :=
    dropBreak_feed (by simp)
  have hcode : commentMark ∉ assignment key v ++ [';'] :=
    fun hmem => (forall_mem_statement hkey hv _ hmem).2 rfl
  rw [statementsOf, hbreak, code_eq_self hcode, pieces_append_cons (by decide),
    pieces_eq_singleton fun c hc => (forall_mem_assignment hkey hv c hc).2.2]
  rfl

theorem value_cons (v : Text) : value (' ' :: v) = value v := by
  rw [value, trim, trimBy_cons (by decide)]
  rfl

theorem trim_key (hkey : IsKey key) : trim ('\t' :: key ++ [' ']) = key := by
  rw [trim, trimBy_concat (by decide), trimBy_cons (by decide)]
  exact trimBy_eq_self fun c hc => (hkey c hc).2.2.2.2

/-- **A setting is read back**, with what a reader takes away at the ends of its value. -/
theorem addLine_setting (hkey : IsKey key) (hv : Free v) (f : Fields) :
    f.addLine (setting key v) = f.set (lowerAscii key) (value v) := by
  have hmark : '=' ∉ '\t' :: key ++ [' '] := by
    simp only [List.mem_append, List.mem_cons, List.not_mem_nil, or_false, not_or]
    exact ⟨⟨by decide, fun hmem => (hkey _ hmem).2.2.2.1 rfl⟩, by decide⟩
  have hcut : cut '=' (assignment key v) = some ('\t' :: key ++ [' '], ' ' :: v) := by
    simpa [assignment] using cut_mark hmark (' ' :: v)
  have hadd : f.add (assignment key v) = f.set (lowerAscii key) (value v) := by
    rw [Fields.add, hcut]
    simp only [trim_key hkey, value_cons]
  rw [Fields.addLine, statementsOf_setting hkey hv, List.foldl_cons, hadd]
  rfl

theorem clean_ofNat (n : Nat) : Clean (ofNat n) := by
  have hdigit : ∀ c ∈ ofNat n, c.isDigit := fun c hc => Numeral.isDigit_of_mem_ofNat hc
  constructor
  · refine ⟨?_, ?_, ?_, ?_, ?_⟩ <;> intro hmem <;> exact absurd (hdigit _ hmem) (by decide)
  · rw [trim, trimBy_eq_self fun c hc => Numeral.isBlank_of_mem_ofNat hc, trimQuotes]
    refine trimBy_eq_self fun c hc => ?_
    rw [beq_eq_false_iff_ne]
    rintro rfl
    exact absurd (hdigit _ hc) (by decide)

/-! ## The values of a rendered block -/

/-- The entry as a reader finds it, without the blanks and quotation marks around its values. -/
def Entry.asRead (e : Entry) : Entry := ⟨e.id, ⟨value e.path.text⟩, value e.pseudo⟩

theorem asRead_eq_self (hpath : Clean e.path.text) (hpseudo : Clean e.pseudo) : e.asRead = e := by
  rw [Entry.asRead, (clean_iff.mp hpath).2, (clean_iff.mp hpseudo).2]

/-- **A rendered block gives the values of its entry**, whatever was given before. -/
theorem foldl_renderLines (hpath : Free e.path.text) (hpseudo : Free e.pseudo) (f : Fields) :
    (renderLines e).foldl Fields.addLine f =
      ⟨some e.asRead.id, some e.asRead.path, some e.asRead.pseudo⟩ := by
  have hid (f : Fields) : f.addLine (setting "Export_Id" (ofNat e.id.toNat)) =
      { f with id := some e.id } := by
    have hread : Numeral.readWord 16 (ofNat e.id.toNat) = .ok e.id.toNat :=
      Numeral.readWord_ofNat e.id.toNat_lt
    rw [addLine_setting (by decide) (clean_ofNat _).free, (clean_iff.mp (clean_ofNat _)).2,
      Fields.set, if_pos (by decide), hread]
    simp [Except.toOption]
  have hpath (f : Fields) : f.addLine (setting "Path" e.path.text) =
      { f with path := some e.asRead.path } := by
    rw [addLine_setting (by decide) hpath]
    rfl
  have hpseudo (f : Fields) : f.addLine (setting "Pseudo" e.pseudo) =
      { f with pseudo := some e.asRead.pseudo } := by
    rw [addLine_setting (by decide) hpseudo]
    rfl
  simp only [renderLines, bodyLines, settings, closingLines, List.cons_append, List.nil_append,
    List.foldl_cons, List.foldl_nil, hid, hpath, hpseudo]
  -- No other line of the block, fixed as they are, sets one of the three.
  rfl

/-! ## The braces of a rendered block -/

/-- The line has no braces. -/
def Plain (line : Text) : Prop := '\x7b' ∉ line ∧ '\x7d' ∉ line

instance : DecidablePred Plain := fun line =>
  inferInstanceAs (Decidable ('\x7b' ∉ line ∧ '\x7d' ∉ line))

theorem plain_setting (hkey : IsKey key) (hv : Free v) : Plain (setting key v) := by
  have hall : ∀ c ∈ setting key v, c ≠ '\x7b' ∧ c ≠ '\x7d' := by
    have hsemicolon : ∀ c ∈ [';'], c ≠ '\x7b' ∧ c ≠ '\x7d' :=
      List.forall_mem_singleton.mpr (by decide)
    have hfeed : ∀ c ∈ ['\n'], c ≠ '\x7b' ∧ c ≠ '\x7d' :=
      List.forall_mem_singleton.mpr (by decide)
    refine List.forall_mem_append.mpr
      ⟨List.forall_mem_append.mpr ⟨fun c hc => ?_, hsemicolon⟩, hfeed⟩
    have hends := (forall_mem_assignment hkey hv c hc).2.2
    exact (endsStatement_eq_false.mp hends).2
  exact ⟨fun hmem => (hall _ hmem).1 rfl, fun hmem => (hall _ hmem).2 rfl⟩

namespace Block

theorem add_plain (hline : Plain line) (b : Block) :
    b.add line = { b with content := b.content ++ line } := by
  obtain ⟨hopen, hclose⟩ := hline
  simp [add, List.count_eq_zero.mpr hopen, List.count_eq_zero.mpr hclose, hopen]

theorem add_opening (hopen : line.count '\x7b' = 1) (hclose : line.count '\x7d' = 0) (b : Block) :
    b.add line = ⟨b.content ++ line, true, b.depth + 1⟩ := by
  have hmem : '\x7b' ∈ line := List.count_pos_iff.mp (by omega)
  simp [add, hopen, hclose, hmem]

theorem add_closing (hopen : line.count '\x7b' = 0) (hclose : line.count '\x7d' = 1) (b : Block) :
    b.add line = ⟨b.content ++ line, b.opened, b.depth - 1⟩ := by
  have hmem : '\x7b' ∉ line := List.count_eq_zero.mp hopen
  simp [add, hopen, hclose, hmem]

theorem not_isClosed_of_depth (hb : 0 < b.depth) : ¬ b.isClosed := by
  simp only [isClosed, Bool.and_eq_true, beq_iff_eq, not_and]
  omega

end Block

/-- Lines without braces close nothing. -/
theorem Gathers.append_plain {lines : List Text} (h : Gathers ls b) (hopen : ¬ b.isClosed)
    (hlines : ∀ l ∈ lines, Plain l) :
    Gathers (ls ++ lines) { b with content := b.content ++ lines.flatten } := by
  induction lines generalizing ls b with
  | nil => simpa using h
  | cons line lines ih =>
    obtain ⟨hline, hplain⟩ := List.forall_mem_cons.mp hlines
    have hnext : Gathers (ls ++ [line]) (b.add line) := h.more hopen
    rw [Block.add_plain hline] at hnext
    simpa using ih hnext hopen hplain

theorem plain_settings (hpath : Free e.path.text) (hpseudo : Free e.pseudo) :
    ∀ l ∈ settings e, Plain l := by
  refine List.forall_mem_cons.mpr ⟨plain_setting (by decide) (clean_ofNat _).free, ?_⟩
  refine List.forall_mem_cons.mpr ⟨plain_setting (by decide) hpath, ?_⟩
  exact List.forall_mem_cons.mpr ⟨plain_setting (by decide) hpseudo, by decide⟩

theorem Gathers.append_opening (h : Gathers ls b) (hb : ¬ b.isClosed)
    (hopen : line.count '\x7b' = 1) (hclose : line.count '\x7d' = 0) :
    Gathers (ls ++ [line]) ⟨b.content ++ line, true, b.depth + 1⟩ := by
  rw [← Block.add_opening hopen hclose b]
  exact h.more hb

theorem Gathers.append_closing (h : Gathers ls b) (hb : ¬ b.isClosed)
    (hopen : line.count '\x7b' = 0) (hclose : line.count '\x7d' = 1) :
    Gathers (ls ++ [line]) ⟨b.content ++ line, b.opened, b.depth - 1⟩ := by
  rw [← Block.add_closing hopen hclose b]
  exact h.more hb

theorem Gathers.append_closingLines {c : Text} {depth : Nat}
    (h : Gathers ls ⟨c, true, depth + 1⟩) :
    Gathers (ls ++ closingLines) ⟨c ++ closingLines.flatten, true, depth⟩ := by
  have hin (c : Text) (d : Nat) : ¬ (⟨c, true, d + 1⟩ : Block).isClosed :=
    Block.not_isClosed_of_depth (Nat.succ_pos _)
  have hfsal : Gathers (ls ++ [ofString "\tFSAL \x7b\n"]) ⟨_, true, depth + 2⟩ :=
    h.append_opening (hin _ _) (by decide) (by decide)
  have hname : Gathers (_ ++ ['\t' :: setting "Name" "VFS"]) ⟨_, true, depth + 2⟩ :=
    hfsal.append_plain (hin _ _) (by decide)
  have hfsal' : Gathers (_ ++ [ofString "\t\x7d\n"]) ⟨_, true, depth + 1⟩ :=
    hname.append_closing (hin _ _) (by decide) (by decide)
  have hblock : Gathers (_ ++ [ofString "\x7d\n"]) ⟨_, true, depth⟩ :=
    hfsal'.append_closing (hin _ _) (by decide) (by decide)
  simpa [closingLines] using hblock

/-- **The braces of a rendered block balance.**  A block that is not closed is as deep in braces
after it as before, and is closed by it if it was in none. -/
theorem Gathers.append_bodyLines (hpath : Free e.path.text) (hpseudo : Free e.pseudo)
    (h : Gathers ls b) (hopen : ¬ b.isClosed) :
    Gathers (ls ++ bodyLines e) ⟨b.content ++ (bodyLines e).flatten, true, b.depth⟩ := by
  have hbrace : Gathers (ls ++ [ofString "\x7b\n"]) ⟨_, true, b.depth + 1⟩ :=
    h.append_opening hopen (by decide) (by decide)
  have hsettings : Gathers (_ ++ settings e) ⟨_, true, b.depth + 1⟩ :=
    hbrace.append_plain (Block.not_isClosed_of_depth (Nat.succ_pos _))
      (plain_settings hpath hpseudo)
  simpa [bodyLines] using hsettings.append_closingLines

/-! ## The whole block -/

theorem isLine_renderLines (hpath : Free e.path.text) (hpseudo : Free e.pseudo) :
    ∀ l ∈ renderLines e, IsLine l := by
  have hsettings : ∀ l ∈ settings e, IsLine l := by
    refine List.forall_mem_cons.mpr ⟨isLine_setting (by decide) (clean_ofNat _).free, ?_⟩
    refine List.forall_mem_cons.mpr ⟨isLine_setting (by decide) hpath, ?_⟩
    exact List.forall_mem_cons.mpr ⟨isLine_setting (by decide) hpseudo, by decide⟩
  have hbody : ∀ l ∈ bodyLines e, IsLine l :=
    List.forall_mem_cons.mpr ⟨by decide, List.forall_mem_append.mpr ⟨hsettings, by decide⟩⟩
  exact List.forall_mem_cons.mpr ⟨by decide, hbody⟩

theorem wholeLines_render (hpath : Free e.path.text) (hpseudo : Free e.pseudo) :
    wholeLines e.render = renderLines e := by
  rw [render_eq, wholeLines_flatten (isLine_renderLines hpath hpseudo)]

/-- Whatever a block has given before, after a rendered one it is read as the entry of that. -/
theorem readBlock_append_render (hpath : Free e.path.text) (hpseudo : Free e.pseudo) {t : Text}
    (ht : Ended t) : readBlock (t ++ e.render) = some e.asRead := by
  rw [readBlock_eq, wholeLines_append ht, List.foldl_append, wholeLines_render hpath hpseudo,
    foldl_renderLines hpath hpseudo]
  rfl

theorem gathers_renderLines (hpath : Free e.path.text) (hpseudo : Free e.pseudo) :
    Gathers (renderLines e) ⟨e.render, true, 0⟩ := by
  have hfirst : Gathers [ofString "EXPORT\n"] ⟨ofString "EXPORT\n", false, 0⟩ :=
    .first (by decide)
  have hall := hfirst.append_bodyLines hpath hpseudo (by decide)
  rwa [← List.flatten_cons, ← renderLines, List.singleton_append, ← renderLines,
    ← render_eq] at hall

theorem readBlock_render (hpath : Free e.path.text) (hpseudo : Free e.pseudo) :
    readBlock e.render = some e.asRead :=
  readBlock_append_render hpath hpseudo (t := []) nofun

/-- **The lines of a rendered block are a block of their own**, with the entry as it is read. -/
theorem read_renderLines (hpath : Free e.path.text) (hpseudo : Free e.pseudo) :
    entriesFrom none (renderLines e) = [e.asRead] ∧ blockAfter none (renderLines e) = none := by
  have hread := (gathers_renderLines hpath hpseudo).read_closed rfl
  rwa [readBlock_render hpath hpseudo] at hread

/-- A rendered block is a section, whatever stands behind it. -/
theorem readSections_render_append (hpath : Free e.path.text) (hpseudo : Free e.pseudo) (t : Text) :
    readSections (e.render ++ t) = .block e.asRead e.render :: readSections t := by
  have hlines : wholeLines (e.render ++ t) = renderLines e ++ wholeLines t := by
    rw [render_eq, wholeLines_flatten_append (isLine_renderLines hpath hpseudo)]
  have hsection : Block.toSection ⟨e.render, true, 0⟩ = .block e.asRead e.render := by
    rw [Block.toSection, readBlock_render hpath hpseudo]
  have hclosed : Block.isClosed ⟨e.render, true, 0⟩ := rfl
  rw [readSections, hlines, (gathers_renderLines hpath hpseudo).readLines_append, afterLine,
    if_pos hclosed, hsection]
  rfl

/-- A block that is not closed takes a rendered one in. -/
theorem Gathers.append_renderLines (hpath : Free e.path.text) (hpseudo : Free e.pseudo)
    (h : Gathers ls b) (hopen : ¬ b.isClosed) :
    Gathers (ls ++ renderLines e) ⟨b.content ++ e.render, true, b.depth⟩ := by
  have hfirst : Gathers (ls ++ [ofString "EXPORT\n"])
      { b with content := b.content ++ [ofString "EXPORT\n"].flatten } :=
    h.append_plain hopen (by decide)
  have hall := hfirst.append_bodyLines hpath hpseudo hopen
  simpa [renderLines, render_eq] using hall

end ShareAgent.Export
