import ShareAgent.Proofs.Export.Header

/-! # How far a block is

What becomes of a block under way depends on little: on the values that its statements have given,
on whether it has opened a brace, and on how many braces are open (`Progress`).  Two readers whose
blocks are equally far read the same entries from the same lines (`Alike.entriesFrom_eq`), whatever
the lines before were, and readers whose blocks are not are told apart by some lines
(`alike_of_entriesFrom`), already by a few if they are not equally deep (`depth_eq_of_probe`).  That
a configuration lacks its last line break makes no difference (`readEntries_break`).
-/
namespace ShareAgent.Export
open Text

variable {b b' : Block} {under under' : Option Block} {line line' : Text} {ls : List Text}

/-! ## A line break at the end -/

variable {x : Text}

theorem plain_of_isBreak (hx : IsBreak x) : Plain x := by
  rcases hx with rfl | rfl <;> decide

theorem withLine_break (hx : IsBreak x) (under : Option Block) (line : Text) :
    withLine under (line ++ x) =
      (withLine under line).map fun b => { b with content := b.content ++ x } := by
  have hplain : Plain x := plain_of_isBreak hx
  cases under with
  | some b =>
    rw [withLine, Block.add_append_plain hplain]
    rfl
  | none =>
    rw [withLine, withLine, Block.add_append_plain hplain]
    by_cases hbegins : beginsBlock line
    · rw [if_pos ((beginsBlock_break hx line).mpr hbegins), if_pos hbegins]
      rfl
    · rw [if_neg (mt (beginsBlock_break hx line).mp hbegins), if_neg hbegins]
      rfl

theorem stillOpen_break (hx : IsBreak x) (under : Option Block) (line : Text) :
    stillOpen (withLine under (line ++ x)) =
      (stillOpen (withLine under line)).map fun b => { b with content := b.content ++ x } := by
  rw [withLine_break hx]
  cases withLine under line with
  | none => rfl
  | some b =>
    have hclosed : Block.isClosed { b with content := b.content ++ x } = b.isClosed := rfl
    by_cases h : b.isClosed
    · rw [Option.map_some, stillOpen_of_closed (hclosed.trans h), stillOpen_of_closed h]
      rfl
    · rw [Option.map_some, stillOpen_of_open (by rwa [hclosed]), stillOpen_of_open h]
      rfl

theorem closedEntry_break (hx : IsBreak x) (under : Option Block) (line : Text) :
    closedEntry (withLine under (line ++ x)) = closedEntry (withLine under line) := by
  rw [withLine_break hx]
  cases withLine under line with
  | none => rfl
  | some b =>
    rw [Option.map_some, closedEntry, closedEntry, readBlock_break hx]
    rfl

/-- A block under way is not closed. -/
theorem not_isClosed_of_stillOpen (h : stillOpen under = some b) : ¬ b.isClosed := by
  cases under with
  | none => cases h
  | some b' =>
    rw [stillOpen] at h
    by_cases hclosed : b'.isClosed
    · rw [if_pos hclosed] at h
      cases h
    · rw [if_neg hclosed] at h
      exact Option.some.inj h ▸ hclosed

theorem not_isClosed_of_blockAfter (h : blockAfter none ls = some b) : ¬ b.isClosed := by
  rcases List.eq_nil_or_concat ls with rfl | ⟨front, last, rfl⟩
  · cases h
  · rw [List.concat_eq_append, blockAfter_append] at h
    exact not_isClosed_of_stillOpen h

/-- Nothing is closed by a line without any sign. -/
theorem closedEntry_empty (ls : List Text) :
    closedEntry (withLine (blockAfter none ls) []) = [] := by
  cases hunder : blockAfter none ls with
  | none => rfl
  | some b =>
    have hadd : b.add [] = b := by simp [Block.add]
    rw [withLine, hadd, closedEntry_of_open (not_isClosed_of_blockAfter hunder)]

/-- **A line break at the end of a configuration adds no entry.** -/
theorem readEntries_break (hx : IsBreak x) (t : Text) : readEntries (t ++ x) = readEntries t := by
  rw [readEntries_eq, readEntries_eq]
  by_cases ht : Ended t
  · have hclosed : closedEntry (withLine (blockAfter none (wholeLines t)) x) = [] :=
      (closedEntry_break hx _ []).trans (closedEntry_empty _)
    rw [wholeLines_append ht, hx.isLine.wholeLines_eq, entriesFrom_append, entriesFrom_singleton,
      hclosed, List.append_nil]
  · obtain ⟨front, last, hfront, hlast, rfl⟩ := exists_rest ht
    have hline : IsLine (last ++ x) := isLine_append_break hlast.2 hx
    rw [List.append_assoc, wholeLines_flatten_append hfront, wholeLines_flatten_append hfront,
      hline.wholeLines_eq, wholeLines_last hlast, entriesFrom_append, entriesFrom_append,
      entriesFrom_singleton, entriesFrom_singleton, closedEntry_break hx]

/-! ## Equally far blocks -/

namespace Fields

/-- The values with a name, which is empty if none is given. -/
def named (f : Fields) : Fields := { f with pseudo := some (f.pseudo.getD []) }

theorem complete?_named (f : Fields) : f.named.complete? = f.complete? := by
  obtain ⟨_ | id, _ | path, pseudo⟩ := f <;> rfl

theorem named_set (f : Fields) (key written : Text) :
    (f.named.set key written).named = (f.set key written).named := by
  by_cases hid : key = "export_id"
  · simp only [set, if_pos hid]
    rfl
  by_cases hpath : key = "path"
  · simp only [set, if_neg hid, if_pos hpath]
    rfl
  by_cases hpseudo : key = "pseudo"
  · simp only [set, if_neg hid, if_neg hpath, if_pos hpseudo]
    rfl
  · simp only [set, if_neg hid, if_neg hpath, if_neg hpseudo]
    rfl

theorem named_add (f : Fields) (statement : Text) :
    (f.named.add statement).named = (f.add statement).named := by
  rw [add, add]
  cases cut '=' statement with
  | none => rfl
  | some parts => exact named_set f _ _

theorem named_foldl_add (f : Fields) (statements : List Text) :
    (statements.foldl add f.named).named = (statements.foldl add f).named := by
  induction statements generalizing f with
  | nil => rfl
  | cons statement rest ih =>
    rw [List.foldl_cons, List.foldl_cons, ← ih, named_add, ih]

end Fields

/-- A block as far as its entry and its end are concerned.  No name is as good as an empty one. -/
structure Progress where
  fields : Fields
  opened : Bool
  depth : Nat
  deriving DecidableEq, Repr

/-- How far a block is. -/
def Block.progress (b : Block) : Progress :=
  ⟨((statements b.content).foldl Fields.add .none).named, b.opened, b.depth⟩

/-- A block of whole lines. -/
structure Block.Running (b : Block) : Prop where
  ended : Ended b.content
  depth_eq_zero : b.opened = false → b.depth = 0

theorem running_empty : Block.empty.Running := ⟨nofun, fun _ => rfl⟩

theorem Block.Running.add (h : b.Running) (hline : IsLine line) : (b.add line).Running :=
  ⟨h.ended.append hline.ended, fun hb => depth_add_eq_zero h.depth_eq_zero hb⟩

/-- A line adds its statements. -/
theorem Block.Running.fields_add (h : b.Running) (hline : IsLine line) :
    (b.add line).progress.fields = (b.progress.fields.addLine line).named := by
  have hstatements : statements line = statementsOf line := by
    rw [statements_eq, hline.wholeLines_eq, List.flatMap_singleton]
  rw [progress, Block.add, statements_append h.ended, List.foldl_append, hstatements,
    ← Fields.named_foldl_add]
  rfl

/-- Readers who are in no block or in blocks that are equally far. -/
structure Alike (under under' : Option Block) : Prop where
  progress_eq : under.map Block.progress = under'.map Block.progress
  running : ∀ b, under = some b → b.Running
  running' : ∀ b, under' = some b → b.Running

theorem alike_none : Alike none none := ⟨rfl, nofun, nofun⟩

theorem alike_some (h : b.Running) (h' : b'.Running) :
    Alike (some b) (some b') ↔ b.progress = b'.progress := by
  constructor
  · intro halike
    exact Option.some.inj halike.progress_eq
  · intro hprogress
    refine ⟨congrArg some hprogress, ?_, ?_⟩
    · intro c hc
      obtain rfl := Option.some.inj hc
      exact h
    · intro c hc
      obtain rfl := Option.some.inj hc
      exact h'

/-- Only blocks are alike that are both under way. -/
theorem Alike.cases (h : Alike under under') : under = none ∧ under' = none ∨
    ∃ b b', under = some b ∧ under' = some b' ∧ b.Running ∧ b'.Running ∧
      b.progress = b'.progress := by
  have hprogress := h.progress_eq
  cases hunder : under with
  | none =>
    cases hunder' : under' with
    | none => exact .inl ⟨rfl, rfl⟩
    | some b' => simp [hunder, hunder'] at hprogress
  | some b =>
    cases hunder' : under' with
    | none => simp [hunder, hunder'] at hprogress
    | some b' =>
      rw [hunder, hunder'] at hprogress
      exact .inr ⟨b, b', rfl, rfl, h.running b hunder, h.running' b' hunder',
        Option.some.inj hprogress⟩

theorem progress_eq_iff : b.progress = b'.progress ↔
    b.progress.fields = b'.progress.fields ∧ b.opened = b'.opened ∧ b.depth = b'.depth := by
  simp [Block.progress]

theorem isClosed_of_progress (h : b.progress = b'.progress) : b.isClosed = b'.isClosed := by
  obtain ⟨-, hopened, hdepth⟩ := progress_eq_iff.mp h
  rw [Block.isClosed, Block.isClosed, hopened, hdepth]

theorem readBlock_eq_progress (b : Block) : readBlock b.content = b.progress.fields.complete? :=
  (Fields.complete?_named _).symm

theorem readBlock_of_progress (h : b.progress = b'.progress) :
    readBlock b.content = readBlock b'.content := by
  rw [readBlock_eq_progress, readBlock_eq_progress, (progress_eq_iff.mp h).1]

theorem Alike.closedEntry_eq (h : Alike under under') : closedEntry under = closedEntry under' := by
  rcases h.cases with ⟨rfl, rfl⟩ | ⟨b, b', rfl, rfl, -, -, hprogress⟩
  · rfl
  · rw [closedEntry, closedEntry, isClosed_of_progress hprogress, readBlock_of_progress hprogress]

theorem Alike.stillOpen (h : Alike under under') : Alike (stillOpen under) (stillOpen under') := by
  rcases h.cases with ⟨rfl, rfl⟩ | ⟨b, b', rfl, rfl, -, -, hprogress⟩
  · exact alike_none
  · rw [Export.stillOpen, Export.stillOpen, isClosed_of_progress hprogress]
    by_cases hclosed : b'.isClosed
    · rw [if_pos hclosed, if_pos hclosed]
      exact alike_none
    · rw [if_neg hclosed, if_neg hclosed]
      exact h

/-- A line counts the same in blocks that are equally deep. -/
theorem Block.add_of_progress (h : b.progress = b'.progress) (line : Text) :
    (b.add line).opened = (b'.add line).opened ∧ (b.add line).depth = (b'.add line).depth := by
  obtain ⟨-, hopened, hdepth⟩ := progress_eq_iff.mp h
  exact ⟨by rw [add, add, hopened], by rw [add, add, hdepth]⟩

/-- Lines with the same values that leave blocks equally deep leave them equally far. -/
theorem Block.Running.alike_add (h : b.Running) (h' : b'.Running) (hline : IsLine line)
    (hline' : IsLine line')
    (hfields : b.progress.fields.addLine line = b'.progress.fields.addLine line')
    (hshape : (b.add line).opened = (b'.add line').opened ∧
      (b.add line).depth = (b'.add line').depth) :
    Alike (some (b.add line)) (some (b'.add line')) := by
  refine (alike_some (h.add hline) (h'.add hline')).mpr (progress_eq_iff.mpr ⟨?_, hshape⟩)
  rw [h.fields_add hline, h'.fields_add hline', hfields]

theorem Alike.withLine (h : Alike under under') (hline : IsLine line) :
    Alike (withLine under line) (withLine under' line) := by
  rcases h.cases with ⟨rfl, rfl⟩ | ⟨b, b', rfl, rfl, hb, hb', hprogress⟩
  · by_cases hbegins : beginsBlock line
    · rw [Export.withLine, if_pos hbegins]
      exact running_empty.alike_add running_empty hline hline rfl ⟨rfl, rfl⟩
    · rw [Export.withLine, if_neg hbegins]
      exact alike_none
  · have hfields := congrArg (·.addLine line) (progress_eq_iff.mp hprogress).1
    exact hb.alike_add hb' hline hline hfields (Block.add_of_progress hprogress line)

/-- **Equally far blocks read on in the same way.** -/
theorem Alike.entriesFrom_eq (h : Alike under under') (hls : Cut ls) :
    entriesFrom under ls = entriesFrom under' ls := by
  induction hls generalizing under under' with
  | nil => rfl
  | @rest t ht =>
    -- The line break that the last line lacks is not missed.
    have hnext := h.withLine ⟨t, ht.2, rfl⟩
    rw [entriesFrom_singleton, entriesFrom_singleton, ← closedEntry_break (.inl rfl) under,
      ← closedEntry_break (.inl rfl) under', hnext.closedEntry_eq]
  | line hline _ ih =>
    have hnext := h.withLine hline
    rw [entriesFrom, entriesFrom, hnext.closedEntry_eq, ih hnext.stillOpen]

theorem Alike.blockAfter (h : Alike under under') (hls : ∀ l ∈ ls, IsLine l) :
    Alike (blockAfter under ls) (blockAfter under' ls) := by
  induction ls generalizing under under' with
  | nil => exact h
  | cons line ls ih =>
    obtain ⟨hline, hrest⟩ := List.forall_mem_cons.mp hls
    exact ih (h.withLine hline).stillOpen hrest

/-- A block under way after whole lines consists of whole lines. -/
theorem running_of_blockAfter (hls : ∀ l ∈ ls, IsLine l) (h : blockAfter none ls = some b) :
    b.Running :=
  (alike_none.blockAfter hls).running b h

theorem isClosed_iff : b.isClosed ↔ b.opened = true ∧ b.depth = 0 := by
  rw [Block.isClosed, Bool.and_eq_true, beq_iff_eq]

/-- A block that is not closed has opened a brace if one is open. -/
theorem Block.Running.opened_eq (h : b.Running) (hopen : ¬ b.isClosed) :
    b.opened = decide (0 < b.depth) := by
  rw [isClosed_iff] at hopen
  cases hopened : b.opened with
  | false => simp [h.depth_eq_zero hopened]
  | true =>
    have hdepth : b.depth ≠ 0 := fun hzero => hopen ⟨hopened, hzero⟩
    exact (decide_eq_true (Nat.pos_of_ne_zero hdepth)).symm

/-- Blocks that go on equally deep, or not at all, are equally deep and have both opened a brace or
both not. -/
theorem Block.Running.shape_eq (h : b.Running) (h' : b'.Running)
    (hdepth : (stillOpen (some b)).map Block.depth = (stillOpen (some b')).map Block.depth) :
    b.opened = b'.opened ∧ b.depth = b'.depth := by
  by_cases hclosed : b.isClosed
  · rw [stillOpen_of_closed hclosed] at hdepth
    by_cases hclosed' : b'.isClosed
    · obtain ⟨hopened, hzero⟩ := isClosed_iff.mp hclosed
      obtain ⟨hopened', hzero'⟩ := isClosed_iff.mp hclosed'
      exact ⟨hopened.trans hopened'.symm, hzero.trans hzero'.symm⟩
    · rw [stillOpen_of_open hclosed'] at hdepth
      cases hdepth
  · rw [stillOpen_of_open hclosed] at hdepth
    by_cases hclosed' : b'.isClosed
    · rw [stillOpen_of_closed hclosed'] at hdepth
      cases hdepth
    · rw [stillOpen_of_open hclosed'] at hdepth
      have hsame : b.depth = b'.depth := Option.some.inj hdepth
      exact ⟨by rw [h.opened_eq hclosed, h'.opened_eq hclosed', hsame], hsame⟩

/-! ## Depth -/

/-- How many braces are open after the lines, if a block is under way. -/
def depthAfter (lines : List Text) : Option Nat := (blockAfter none lines).map Block.depth

theorem depthAfter_concat (ls : List Text) (line : Text) :
    depthAfter (ls ++ [line]) =
      (stillOpen (withLine (blockAfter none ls) line)).map Block.depth := by
  rw [depthAfter, blockAfter_append]
  rfl

theorem depthAfter_break (hx : IsBreak x) (ls : List Text) (line : Text) :
    depthAfter (ls ++ [line ++ x]) = depthAfter (ls ++ [line]) := by
  rw [depthAfter_concat, depthAfter_concat, stillOpen_break hx, Option.map_map]
  rfl

/-! ## Telling depths apart -/

/-- The line gives a block its values and opens a brace. -/
def probeLine : Text := "Export_Id = 1; Path = /; \x7b\n"

/-- The line closes so many braces. -/
def closingLine (n : Nat) : Text := List.replicate n '\x7d' ++ ['\n']

/-- Lines that complete the block under way and close it if it is at most `d` deep in braces. -/
def probe (d : Nat) : List Text := [probeLine, closingLine (d + 1)]

theorem isLine_closingLine (n : Nat) : IsLine (closingLine n) :=
  ⟨_, fun hmem => absurd (List.eq_of_mem_replicate hmem) (by decide), rfl⟩

theorem addLine_closingLine (n : Nat) (f : Fields) : f.addLine (closingLine n) = f := by
  refine Fields.addLine_of_not_mem (fun hmem => ?_) f
  rcases List.mem_append.mp hmem with hbrace | hfeed
  · exact absurd (List.eq_of_mem_replicate hbrace) (by decide)
  · exact absurd (List.mem_singleton.mp hfeed) (by decide)

theorem Block.add_closingLine (b : Block) (n : Nat) :
    (b.add (closingLine n)).opened = b.opened ∧ (b.add (closingLine n)).depth = b.depth - n := by
  simp [add, closingLine, List.count_append, List.count_replicate]

theorem isLine_probe (d : Nat) : ∀ l ∈ probe d, IsLine l :=
  List.forall_mem_cons.mpr ⟨by decide, List.forall_mem_singleton.mpr (isLine_closingLine _)⟩

theorem mark_not_mem_probe (d : Nat) : commentMark ∉ (probe d).flatten := by
  have hbrace : commentMark ∉ List.replicate (d + 1) '\x7d' :=
    fun hmem => absurd (List.eq_of_mem_replicate hmem) (by decide)
  have hlast : commentMark ∉ closingLine (d + 1) := List.not_mem_append hbrace (by decide)
  rw [probe, List.flatten_cons, List.flatten_singleton]
  exact List.not_mem_append (by decide) hlast

/-- Outside blocks they are text. -/
theorem entriesFrom_none_probe (d : Nat) : entriesFrom none (probe d) = [] := by
  have hlast : ¬ beginsBlock (closingLine (d + 1)) := by
    rw [closingLine, List.replicate_succ]
    exact Bool.false_ne_true
  exact (read_plain (List.forall_mem_cons.mpr ⟨by decide, List.forall_mem_singleton.mpr hlast⟩)).1

/-- A line that opens a brace, and then so many closing ones, complete the block of the reader if it
is not too deep in braces. -/
theorem entriesFrom_some_closing (hb : b.Running) (hline : IsLine line)
    (hopens : line.count '\x7b' = 1) (hcloses : line.count '\x7d' = 0) (d : Nat) :
    entriesFrom (some b) [line, closingLine (d + 1)] =
      if b.depth ≤ d then (b.progress.fields.addLine line).complete?.toList else [] := by
  have hopened : (b.add line).opened = true := by rw [b.add_opening hopens hcloses]
  have hdepth : (b.add line).depth = b.depth + 1 := by rw [b.add_opening hopens hcloses]
  obtain ⟨hopened', hdepth'⟩ := (b.add line).add_closingLine (d + 1)
  have hopen : ¬ (b.add line).isClosed := Block.not_isClosed_of_depth (by omega)
  have hclosed : ((b.add line).add (closingLine (d + 1))).isClosed ↔ b.depth ≤ d := by
    rw [isClosed_iff, hopened', hopened, hdepth', hdepth]
    constructor
    · rintro ⟨-, hzero⟩
      omega
    · intro hle
      exact ⟨rfl, by omega⟩
  -- The last line gives no values.
  have hread : readBlock ((b.add line).add (closingLine (d + 1))).content =
      (b.progress.fields.addLine line).complete? := by
    have hnext : (b.add line).Running := hb.add hline
    rw [readBlock_eq_progress, hnext.fields_add (isLine_closingLine _), addLine_closingLine,
      Fields.complete?_named, hb.fields_add hline, Fields.complete?_named]
  rw [entriesFrom, withLine, closedEntry_of_open hopen, stillOpen_of_open hopen,
    entriesFrom_singleton, withLine, closedEntry, hread, List.nil_append]
  by_cases h : b.depth ≤ d
  · rw [if_pos h, if_pos (hclosed.mpr h)]
  · rw [if_neg h, if_neg (mt hclosed.mp h)]

/-- The block of the reader ends with a probe if it is not too deep in braces. -/
theorem entriesFrom_some_probe (hb : b.Running) (d : Nat) :
    entriesFrom (some b) (probe d) ≠ [] ↔ b.depth ≤ d := by
  rw [probe, entriesFrom_some_closing hb (by decide) (by decide) (by decide)]
  by_cases h : b.depth ≤ d
  · -- The first line of a probe gives all values that an entry needs.
    rw [if_pos h]
    exact iff_of_true (List.cons_ne_nil _ _) h
  · rw [if_neg h]
    exact iff_of_false (fun hne => hne rfl) h

/-- **Readers that find the same in every probe are equally deep.** -/
theorem depth_eq_of_probe (hunder : ∀ b, under = some b → b.Running)
    (hunder' : ∀ b, under' = some b → b.Running)
    (h : ∀ d, entriesFrom under (probe d) = entriesFrom under' (probe d)) :
    under.map Block.depth = under'.map Block.depth := by
  cases under with
  | none =>
    cases under' with
    | none => rfl
    | some b' =>
      have hfound := (entriesFrom_some_probe (hunder' b' rfl) b'.depth).mpr le_rfl
      rw [← h, entriesFrom_none_probe] at hfound
      exact (hfound rfl).elim
  | some b =>
    have hfound := (entriesFrom_some_probe (hunder b rfl) b.depth).mpr le_rfl
    cases under' with
    | none =>
      rw [h, entriesFrom_none_probe] at hfound
      exact (hfound rfl).elim
    | some b' =>
      have hfound' := (entriesFrom_some_probe (hunder' b' rfl) b'.depth).mpr le_rfl
      rw [h, entriesFrom_some_probe (hunder' b' rfl)] at hfound
      rw [← h, entriesFrom_some_probe (hunder b rfl)] at hfound'
      exact congrArg some (le_antisymm hfound' hfound)

/-! ## Telling values apart -/

/-- The line gives a block all values but the number and opens a brace. -/
def numberProbe : Text := "Path = /; Pseudo = /; \x7b\n"

/-- The line gives a block all values but the path and opens a brace. -/
def pathProbe : Text := "Export_Id = 1; Pseudo = /; \x7b\n"

theorem Fields.addLine_numberProbe (f : Fields) :
    f.addLine numberProbe = ⟨f.id, some ⟨"/"⟩, some "/"⟩ := rfl

theorem Fields.addLine_pathProbe (f : Fields) :
    f.addLine pathProbe = ⟨some 1, f.path, some "/"⟩ := rfl

theorem Fields.addLine_probeLine (f : Fields) :
    f.addLine probeLine = ⟨some 1, some ⟨"/"⟩, f.pseudo⟩ := rfl

/-- Values that complete the same entries are the same, but for a name that is missing. -/
theorem Fields.named_eq_of_probe {f f' : Fields}
    (hnumber : (f.addLine numberProbe).complete? = (f'.addLine numberProbe).complete?)
    (hpath : (f.addLine pathProbe).complete? = (f'.addLine pathProbe).complete?)
    (hname : (f.addLine probeLine).complete? = (f'.addLine probeLine).complete?) :
    f.named = f'.named := by
  obtain ⟨id, path, pseudo⟩ := f
  obtain ⟨id', path', pseudo'⟩ := f'
  rw [addLine_numberProbe, addLine_numberProbe] at hnumber
  rw [addLine_pathProbe, addLine_pathProbe] at hpath
  rw [addLine_probeLine, addLine_probeLine] at hname
  have hid : id = id' := by
    cases id <;> cases id' <;> simp_all [complete?]
  have hpath : path = path' := by
    cases path <;> cases path' <;> simp_all [complete?]
  have hname : pseudo.getD [] = pseudo'.getD [] := by
    simpa [complete?] using hname
  simp only [named, hid, hpath, hname]

/-- **Readers that find the same in all lines are equally far.**  Neither of their blocks is closed
already. -/
theorem alike_of_entriesFrom (hunder : ∀ b, under = some b → b.Running ∧ ¬ b.isClosed)
    (hunder' : ∀ b, under' = some b → b.Running ∧ ¬ b.isClosed)
    (h : ∀ ls, (∀ l ∈ ls, IsLine l) → entriesFrom under ls = entriesFrom under' ls) :
    Alike under under' := by
  have hdepth := depth_eq_of_probe (fun b hb => (hunder b hb).1) (fun b hb => (hunder' b hb).1)
    fun d => h (probe d) (isLine_probe d)
  cases under with
  | none =>
    cases under' with
    | none => exact alike_none
    | some b' => cases hdepth
  | some b =>
    cases under' with
    | none => cases hdepth
    | some b' =>
      obtain ⟨hb, hopen⟩ := hunder b rfl
      obtain ⟨hb', hopen'⟩ := hunder' b' rfl
      have hdepth : b.depth = b'.depth := Option.some.inj hdepth
      have hopened : b.opened = b'.opened := by
        rw [hb.opened_eq hopen, hb'.opened_eq hopen', hdepth]
      have hprobe : ∀ line, IsLine line → line.count '\x7b' = 1 → line.count '\x7d' = 0 →
          (b.progress.fields.addLine line).complete? =
            (b'.progress.fields.addLine line).complete? := by
        intro line hline hopens hcloses
        have hfound := h [line, closingLine (b.depth + 1)]
          (List.forall_mem_cons.mpr ⟨hline, List.forall_mem_singleton.mpr (isLine_closingLine _)⟩)
        rw [entriesFrom_some_closing hb hline hopens hcloses,
          entriesFrom_some_closing hb' hline hopens hcloses, if_pos le_rfl,
          if_pos hdepth.ge] at hfound
        simpa using congrArg List.head? hfound
      have hfields : b.progress.fields.named = b'.progress.fields.named :=
        Fields.named_eq_of_probe (hprobe numberProbe (by decide) (by decide) (by decide))
          (hprobe pathProbe (by decide) (by decide) (by decide))
          (hprobe probeLine (by decide) (by decide) (by decide))
      exact (alike_some hb hb').mpr (progress_eq_iff.mpr ⟨hfields, hopened, hdepth⟩)

end ShareAgent.Export
