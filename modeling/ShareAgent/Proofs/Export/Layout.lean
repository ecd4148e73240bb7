import ShareAgent.Proofs.Export.Progress

/-! # The layout of a configuration

Statements end where they end, on one line or on many, but blocks begin and end with a line.  So a
line break after a statement can be seen: what follows the end of a block on its line still belongs
to that block, and a header that does not begin its line is none.  `Rejoins` says exactly when what
follows a statement may as well stand on the next line (`rejoins_iff`), and two readers are told
apart by some text as soon as it may not (`EndsStatement.rejoins_iff_readEntries`).

Breaks that do no harm (`Harmless`) stay so when more of them are put in behind
(`Harmless.of_spread`).  So a configuration that may be broken everywhere has the same entries in
all its layouts, by induction from its end (`Spread.readEntries_append`).
-/
namespace ShareAgent.Export
open Text

variable {b m : Block} {under : Option Block} {front rest x : Text}

/-- The text ends with a character that ends a statement. -/
def EndsStatement (s : Text) : Prop := ∃ c ∈ s.getLast?, endsStatement c

-- By the character at the end; there are too many characters to try them all.
instance : DecidablePred EndsStatement := fun s =>
  @Option.decidableExistsMem _ _ _ s.getLast?

/-- The rest of a line that sets no value, opens no brace and begins no block. -/
def Idle (rest : Text) : Prop := '=' ∉ rest ∧ '\x7b' ∉ rest ∧ ¬ beginsBlock rest

instance : DecidablePred Idle := fun rest =>
  inferInstanceAs (Decidable ('=' ∉ rest ∧ '\x7b' ∉ rest ∧ ¬ beginsBlock rest))

/-! ## A line and its parts -/

theorem EndsStatement.exists_concat (h : EndsStatement front) :
    ∃ body c, front = body ++ [c] ∧ endsStatement c := by
  obtain ⟨c, hc, hends⟩ := h
  obtain ⟨body, rfl⟩ := List.getLast?_eq_some_iff.mp hc
  exact ⟨body, c, rfl, hends⟩

theorem isBlank_of_endsStatement {c : Char} (h : endsStatement c) : isBlank c = false := by
  simp only [endsStatement, Bool.or_eq_true, beq_iff_eq] at h
  rcases h with (rfl | rfl) | rfl <;> decide

theorem toLower_of_endsStatement {c : Char} (h : endsStatement c) : c.toLower ∉ blockWord := by
  simp only [endsStatement, Bool.or_eq_true, beq_iff_eq] at h
  rcases h with (rfl | rfl) | rfl <;> decide

/-- A line that begins a block does so before its first statement ends, with a brace. -/
theorem EndsStatement.beginsBlock_append (h : EndsStatement front) (rest : Text) :
    beginsBlock (front ++ rest) ↔ beginsBlock front ∧ '\x7b' ∈ front := by
  constructor
  · intro hbegins
    obtain ⟨body, c, hfront, hends⟩ := h.exists_concat
    have hc : c ∈ trimStart front :=
      mem_trimStart (by simp [hfront]) (isBlank_of_endsStatement hends)
    rw [beginsBlock_iff, trimStart_append (List.ne_nil_of_mem hc)] at hbegins
    obtain ⟨word, tail, hstart, hword, htail⟩ := hbegins
    have hnot : c ∉ word := not_mem_of_blockWord hword (toLower_of_endsStatement hends)
    rcases List.append_eq_append_iff.mp hstart with ⟨others, rfl, -⟩ | ⟨others, hothers, rfl⟩
    · exact (hnot (List.mem_append_left _ hc)).elim
    -- What follows the word in `front` is no blank, so it is the brace.
    have hin : c ∈ others := by
      rw [hothers] at hc
      exact (List.mem_append.mp hc).resolve_left hnot
    have hne := List.ne_nil_of_mem (mem_trimStart hin (isBlank_of_endsStatement hends))
    obtain ⟨d, more, hmore⟩ := List.exists_cons_of_ne_nil hne
    rw [trimStart_append hne, hmore] at htail
    obtain rfl : d = '\x7b' := by
      rcases htail with hnil | ⟨_, hbrace⟩
      · cases hnil
      · exact (List.cons.inj hbrace).1
    have hbrace : '\x7b' ∈ trimStart front := by
      rw [hothers]
      exact List.mem_append_right _ ((List.dropWhile_suffix _).subset (hmore ▸ List.mem_cons_self))
    exact ⟨beginsBlock_iff.mpr ⟨word, others, hothers, hword, .inr ⟨more, hmore⟩⟩,
      (List.dropWhile_suffix _).subset hbrace⟩
  · rintro ⟨hbegins, hbrace⟩
    exact Export.beginsBlock_append hbegins hbrace rest

theorem EndsStatement.beginsBlock_iff (h : EndsStatement front) :
    beginsBlock front ↔ beginsBlock front ∧ '\x7b' ∈ front := by
  have happend := h.beginsBlock_append []
  rwa [List.append_nil] at happend

/-- The statements of a line are those up to the end of one of them and those after it. -/
theorem EndsStatement.addLine_append (h : EndsStatement front) (hfront : '\n' ∉ front)
    (hrest : '\n' ∉ rest) (hmark : commentMark ∉ front) (f : Fields) :
    f.addLine (front ++ rest) = (f.addLine front).addLine rest := by
  obtain ⟨body, c, rfl, hends⟩ := h.exists_concat
  have hcode : code (body ++ [c] ++ rest) = body ++ c :: code rest := by
    rw [code_append hmark, List.append_assoc, List.singleton_append]
  have hempty : ∀ f : Fields, f.add [] = f := fun _ => rfl
  have hboth : '\n' ∉ body ++ [c] ++ rest := List.not_mem_append hfront hrest
  rw [Fields.addLine, Fields.addLine, Fields.addLine, statementsOf, statementsOf, statementsOf,
    dropBreak_rest hboth, dropBreak_rest hfront, dropBreak_rest hrest, hcode, code_eq_self hmark,
    pieces_append_cons hends, pieces_append_cons hends, List.foldl_append, List.foldl_append]
  rfl

/-! ## The block of a line -/

/-- A line of a block continues a block of whole lines, at first the empty one. -/
theorem EndsStatement.exists_base (h : EndsStatement front)
    (hunder : ∀ b, under = some b → b.Running ∧ ¬ b.isClosed)
    (hm : withLine under front = some m) :
    ∃ b : Block, b.Running ∧ m = b.add front ∧
      ∀ rest, withLine under (front ++ rest) = some (b.add (front ++ rest)) := by
  cases under with
  | some b => exact ⟨b, (hunder b rfl).1, (Option.some.inj hm).symm, fun _ => rfl⟩
  | none =>
    rw [withLine] at hm
    by_cases hbegins : beginsBlock front
    · rw [if_pos hbegins] at hm
      refine ⟨Block.empty, running_empty, (Option.some.inj hm).symm, fun rest => ?_⟩
      rw [withLine, if_pos ((h.beginsBlock_append rest).mpr (h.beginsBlock_iff.mp hbegins))]
    · rw [if_neg hbegins] at hm
      cases hm

/-- A line that belongs to no block up to the end of a statement belongs to none. -/
theorem EndsStatement.withLine_none (h : EndsStatement front) (hm : withLine under front = none)
    (rest : Text) : under = none ∧ withLine under (front ++ rest) = none := by
  cases under with
  | some b => cases hm
  | none =>
    refine ⟨rfl, ?_⟩
    have hbegins : ¬ beginsBlock front := by
      intro hbegins
      rw [withLine, if_pos hbegins] at hm
      cases hm
    rw [withLine, if_neg fun hlong => hbegins ((h.beginsBlock_append rest).mp hlong).1]

/-! ## A line and the two lines that a break makes of it -/

/-- Read as a line of its own the text has no entry and leaves no block open. -/
def Unnoticed (rest : Text) : Prop :=
  closedEntry (withLine none rest) = [] ∧ stillOpen (withLine none rest) = none

/-- What comes after `front` on a line may as well stand on the next one.  If `front` belongs to no
block, it must not be noticed there.  If a block goes on after `front`, only braces matter that
close before one is opened: they count on the whole line only.  If `front` closes its block, the
whole line must have the entry of that block and those of the rest, and leave a reader where the
rest does. -/
def Rejoins (under : Option Block) (front rest : Text) : Prop :=
  match withLine under front with
  | none => Unnoticed rest
  | some m =>
    if m.isClosed then
      closedEntry (some m) ++ closedEntry (withLine none rest) =
          closedEntry (withLine under (front ++ rest)) ∧
        Alike (stillOpen (withLine none (rest ++ ['\n'])))
          (stillOpen (withLine under (front ++ rest ++ ['\n'])))
    else m.opened = true ∨ '\x7d' ∉ front ∨ rest.count '\x7b' ≤ rest.count '\x7d'

/-- Read as one line and as two, the same entries are found and the readers are left alike. -/
def SameRead (under : Option Block) (x front rest : Text) : Prop :=
  entriesFrom under [front ++ x, rest ++ ['\n']] = entriesFrom under [front ++ rest ++ ['\n']] ∧
    Alike (blockAfter under [front ++ x, rest ++ ['\n']])
      (blockAfter under [front ++ rest ++ ['\n']])

theorem alike_none_iff : Alike under none ↔ under = none := by
  constructor
  · intro h
    rcases h.cases with ⟨hunder, -⟩ | ⟨_, _, -, hnone, -⟩
    · exact hunder
    · cases hnone
  · rintro rfl
    exact alike_none

theorem stillOpen_break_eq_none (hx : IsBreak x) (line : Text) :
    stillOpen (withLine under (line ++ x)) = none ↔ stillOpen (withLine under line) = none := by
  rw [stillOpen_break hx, Option.map_eq_none_iff]

/-- Two lines, and the same as one. -/
theorem sameRead_iff : SameRead under x front rest ↔
    closedEntry (withLine under (front ++ x)) ++
        closedEntry (withLine (stillOpen (withLine under (front ++ x))) (rest ++ ['\n'])) =
          closedEntry (withLine under (front ++ rest ++ ['\n'])) ∧
      Alike (stillOpen (withLine (stillOpen (withLine under (front ++ x))) (rest ++ ['\n'])))
        (stillOpen (withLine under (front ++ rest ++ ['\n']))) := by
  rw [SameRead, entriesFrom, entriesFrom_singleton, entriesFrom_singleton]
  rfl

/-- Between blocks. -/
theorem sameRead_between (h : EndsStatement front) (hm : withLine under front = none) :
    SameRead under x front rest ↔ Unnoticed rest := by
  obtain ⟨rfl, hfirst⟩ := h.withLine_none hm x
  have hlong : withLine none (front ++ rest ++ ['\n']) = none := by
    rw [List.append_assoc]
    exact (h.withLine_none hm _).2
  rw [sameRead_iff, hfirst, hlong]
  show closedEntry (withLine none (rest ++ ['\n'])) = [] ∧
    Alike (stillOpen (withLine none (rest ++ ['\n']))) none ↔ _
  rw [closedEntry_break (.inl rfl), alike_none_iff, stillOpen_break_eq_none (.inl rfl)]
  rfl

/-- After the end of a block. -/
theorem sameRead_closed (hx : IsBreak x) (hm : withLine under front = some m)
    (hclosed : m.isClosed) : SameRead under x front rest ↔
      closedEntry (some m) ++ closedEntry (withLine none rest) =
          closedEntry (withLine under (front ++ rest)) ∧
        Alike (stillOpen (withLine none (rest ++ ['\n'])))
          (stillOpen (withLine under (front ++ rest ++ ['\n']))) := by
  have hnone : stillOpen (withLine under (front ++ x)) = none := by
    rw [stillOpen_break_eq_none hx, hm, stillOpen_of_closed hclosed]
  rw [sameRead_iff, hnone, closedEntry_break hx, hm, closedEntry_break (.inl rfl),
    closedEntry_break (.inl rfl)]

/-- Braces of a line that is broken in two and of the whole line. -/
theorem Block.add_broken (hx : IsBreak x) (b : Block) (front rest : Text) :
    ((b.add (front ++ x)).add (rest ++ ['\n'])).opened = (b.add (front ++ rest ++ ['\n'])).opened ∧
      ((b.add (front ++ x)).add (rest ++ ['\n'])).depth =
        b.depth + front.count '\x7b' - front.count '\x7d' + rest.count '\x7b' -
          rest.count '\x7d' ∧
      (b.add (front ++ rest ++ ['\n'])).depth =
        b.depth + (front.count '\x7b' + rest.count '\x7b') -
          (front.count '\x7d' + rest.count '\x7d') := by
  rcases hx with rfl | rfl <;> simp [add, List.count_append, Bool.or_assoc]

/-- Braces that close count on both lines as on one, unless they close more than is open and more
are opened after them. -/
theorem Block.Running.broken_depth_eq_iff (hb : b.Running) (hx : IsBreak x)
    (hopen : ¬ (b.add front).isClosed) :
    ((b.add (front ++ x)).add (rest ++ ['\n'])).depth = (b.add (front ++ rest ++ ['\n'])).depth ↔
      (b.add front).opened = true ∨ '\x7d' ∉ front ∨
        rest.count '\x7b' ≤ rest.count '\x7d' := by
  obtain ⟨-, hbroken, hwhole⟩ := b.add_broken hx front rest
  have hdepth : (b.add front).depth = b.depth + front.count '\x7b' - front.count '\x7d' := rfl
  rw [hbroken, hwhole]
  by_cases hopened : (b.add front).opened = true
  · have hpos : (b.add front).depth ≠ 0 := fun hzero => hopen (isClosed_iff.mpr ⟨hopened, hzero⟩)
    exact iff_of_true (by omega) (.inl hopened)
  · -- No brace is opened up to the break, so none is open there.
    obtain ⟨hbefore, hnone⟩ := Bool.or_eq_false_iff.mp (Bool.eq_false_iff.mpr hopened)
    have hzero : b.depth = 0 := hb.depth_eq_zero hbefore
    have hcount : front.count '\x7b' = 0 :=
      List.count_eq_zero.mpr fun hmem => by simp [hmem] at hnone
    rw [hzero, hcount]
    by_cases hcloses : '\x7d' ∈ front
    · have hpos := List.count_pos_iff.mpr hcloses
      constructor
      · intro heq
        exact .inr (.inr (by omega))
      · rintro (htrue | hnot | hle)
        · exact (hopened htrue).elim
        · exact (hnot hcloses).elim
        · omega
    · have hnever := List.count_eq_zero.mpr hcloses
      exact iff_of_true (by omega) (.inr (.inl hcloses))

/-- In a block that goes on after the break. -/
theorem sameRead_inside (hx : IsBreak x) (h : EndsStatement front) (hfront : '\n' ∉ front)
    (hrest : '\n' ∉ rest) (hmark : commentMark ∉ front)
    (hunder : ∀ b, under = some b → b.Running ∧ ¬ b.isClosed)
    (hm : withLine under front = some m) (hopen : ¬ m.isClosed) :
    SameRead under x front rest ↔
      m.opened = true ∨ '\x7d' ∉ front ∨ rest.count '\x7b' ≤ rest.count '\x7d' := by
  obtain ⟨b, hb, rfl, hlong⟩ := h.exists_base hunder hm
  have hopen' : ¬ (b.add (front ++ x)).isClosed := by
    rw [Block.add_append_plain (plain_of_isBreak hx)]
    exact hopen
  have hfirst : IsLine (front ++ x) := isLine_append_break hfront hx
  have hsecond : IsLine (rest ++ ['\n']) := ⟨rest, hrest, rfl⟩
  have hline : IsLine (front ++ rest ++ ['\n']) := ⟨_, List.not_mem_append hfront hrest, rfl⟩
  have hbroken : ((b.add (front ++ x)).add (rest ++ ['\n'])).Running := (hb.add hfirst).add hsecond
  have hwhole : (b.add (front ++ rest ++ ['\n'])).Running := hb.add hline
  have hfields : ((b.add (front ++ x)).add (rest ++ ['\n'])).progress.fields =
      (b.add (front ++ rest ++ ['\n'])).progress.fields := by
    rw [(hb.add hfirst).fields_add hsecond, hb.fields_add hfirst, hb.fields_add hline,
      Fields.addLine_feed hrest, Fields.addLine_break hfront hx,
      Fields.addLine_feed (List.not_mem_append hfront hrest),
      h.addLine_append hfront hrest hmark]
    exact Fields.named_foldl_add _ _
  have hshort : withLine (some (b.add (front ++ x))) (rest ++ ['\n']) =
      some ((b.add (front ++ x)).add (rest ++ ['\n'])) := rfl
  have hlong' : withLine under (front ++ rest ++ ['\n']) =
      some (b.add (front ++ rest ++ ['\n'])) := by
    rw [List.append_assoc]
    exact hlong _
  rw [sameRead_iff, hlong x, closedEntry_of_open hopen', stillOpen_of_open hopen', hshort, hlong',
    ← hb.broken_depth_eq_iff hx hopen, List.nil_append]
  constructor
  · rintro ⟨-, halike⟩
    refine (hbroken.shape_eq hwhole ?_).2
    have hdepth := congrArg (Option.map Progress.depth) halike.progress_eq
    rwa [Option.map_map, Option.map_map] at hdepth
  · intro hdepth
    have halike := (alike_some hbroken hwhole).mpr
      (progress_eq_iff.mpr ⟨hfields, (b.add_broken hx front rest).1, hdepth⟩)
    exact ⟨halike.closedEntry_eq, halike.stillOpen⟩

/-- **What may stand on the next line** is what is read there as it is on this one. -/
theorem rejoins_iff (hx : IsBreak x) (h : EndsStatement front) (hfront : '\n' ∉ front)
    (hrest : '\n' ∉ rest) (hmark : commentMark ∉ front)
    (hunder : ∀ b, under = some b → b.Running ∧ ¬ b.isClosed) :
    Rejoins under front rest ↔ SameRead under x front rest := by
  cases hm : withLine under front with
  | none =>
    rw [sameRead_between h hm, Rejoins, hm]
  | some m =>
    rw [Rejoins, hm]
    by_cases hclosed : m.isClosed
    · simp only [if_pos hclosed]
      exact (sameRead_closed hx hm hclosed).symm
    · simp only [if_neg hclosed]
      exact (sameRead_inside hx h hfront hrest hmark hunder hm hclosed).symm

/-! ## Breaks that do no harm -/

/-- A block is under way, within its braces. -/
def InBraces (under : Option Block) : Prop := ∃ b ∈ under, b.opened = true ∧ b.depth ≠ 0

instance : Decidable (InBraces under) :=
  inferInstanceAs (Decidable (∃ b ∈ under, b.opened = true ∧ b.depth ≠ 0))

theorem rejoins_of_inBraces (h : InBraces (withLine under front)) : Rejoins under front rest := by
  obtain ⟨m, hm, hopened, hdepth⟩ := h
  have hopen : ¬ m.isClosed := fun hclosed => hdepth (isClosed_iff.mp hclosed).2
  rw [Rejoins, hm]
  simp only [if_neg hopen]
  exact .inl hopened

/-- A block that is closed stays so, with the same values. -/
theorem Idle.alike_closed (hidle : Idle rest) (h : EndsStatement front) (hfront : '\n' ∉ front)
    (hrest : '\n' ∉ rest) (hmark : commentMark ∉ front) (hb : b.Running)
    (hclosed : (b.add front).isClosed) :
    Alike (some (b.add (front ++ ['\n']))) (some (b.add (front ++ rest ++ ['\n']))) := by
  obtain ⟨hassign, hbrace, -⟩ := hidle
  have hboth : '\n' ∉ front ++ rest := List.not_mem_append hfront hrest
  have hfirst : IsLine (front ++ ['\n']) := ⟨front, hfront, rfl⟩
  have hline : IsLine (front ++ rest ++ ['\n']) := ⟨_, hboth, rfl⟩
  obtain ⟨hopened, hdepth⟩ := isClosed_iff.mp hclosed
  refine hb.alike_add hb hfirst hline ?_ ⟨?_, ?_⟩
  · rw [Fields.addLine_feed hfront, Fields.addLine_feed hboth,
      h.addLine_append hfront hrest hmark, Fields.addLine_of_not_mem hassign]
  · have hopens : b.opened = true ∨ '\x7b' ∈ front := by simpa [Block.add] using hopened
    rcases hopens with hopens | hopens <;> simp [Block.add, hopens]
  · have hnone : rest.count '\x7b' = 0 := List.count_eq_zero.mpr hbrace
    have hzero : b.depth + front.count '\x7b' - front.count '\x7d' = 0 := hdepth
    simp only [Block.add, List.count_append, hnone]
    simp
    omega

theorem rejoins_of_idle (hidle : Idle rest) (h : EndsStatement front) (hfront : '\n' ∉ front)
    (hrest : '\n' ∉ rest) (hmark : commentMark ∉ front)
    (hunder : ∀ b, under = some b → b.Running ∧ ¬ b.isClosed) : Rejoins under front rest := by
  have hnone : withLine none rest = none := if_neg hidle.2.2
  have hfeed : IsBreak ['\n'] := .inl rfl
  cases hm : withLine under front with
  | none =>
    rw [Rejoins, hm]
    exact ⟨by rw [hnone]; rfl, by rw [hnone]; rfl⟩
  | some m =>
    rw [Rejoins, hm]
    by_cases hclosed : m.isClosed
    · simp only [if_pos hclosed]
      obtain ⟨b, hb, rfl, hlong⟩ := h.exists_base hunder hm
      have halike := hidle.alike_closed h hfront hrest hmark hb hclosed
      have hwhole : withLine under (front ++ rest ++ ['\n']) =
          some (b.add (front ++ rest ++ ['\n'])) := by
        rw [List.append_assoc]
        exact hlong _
      have hentry : closedEntry (some (b.add front)) =
          closedEntry (some (b.add (front ++ ['\n']))) := by
        rw [← hm, ← hlong, closedEntry_break hfeed]
      have hdone : stillOpen (some (b.add (front ++ ['\n']))) = none := by
        rw [← hlong, stillOpen_break_eq_none hfeed, hm, stillOpen_of_closed hclosed]
      constructor
      · rw [hnone, hentry, halike.closedEntry_eq, ← hwhole, closedEntry_break hfeed]
        exact List.append_nil _
      · have hrestNone : stillOpen (withLine none (rest ++ ['\n'])) = none :=
          (stillOpen_break_eq_none hfeed rest).mpr (by rw [hnone]; rfl)
        rw [hrestNone, hwhole, ← hdone]
        exact halike.stillOpen
    · simp only [if_neg hclosed]
      rw [List.count_eq_zero.mpr hidle.2.1]
      exact .inr (.inr (Nat.zero_le _))

/-! ## The place of a break -/

variable {s t wide config : Text} {ls ms : List Text}

/-- The unfinished line at the end of a text. -/
def lastLine (s : Text) : Text := (wholeLines s).getLast?.getD []

/-- The block under way before the last line. -/
def blockBefore (s : Text) : Option Block := blockAfter none (wholeLines s).dropLast

/-- The text up to its first line feed. -/
def firstLine (t : Text) : Text := t.takeWhile (· != '\n')

theorem feed_not_mem_firstLine (t : Text) : '\n' ∉ firstLine t := by
  intro hmem
  have hne := List.mem_takeWhile_imp hmem
  exact absurd hne (by decide)

theorem ne_feed_of_not_mem (ht : '\n' ∉ t) : ∀ c ∈ t, (c != '\n') = true := by
  intro c hc
  rw [bne_iff_ne]
  rintro rfl
  exact ht hc

theorem firstLine_eq_self (ht : '\n' ∉ t) : firstLine t = t :=
  List.takeWhile_eq_self_iff.mpr (ne_feed_of_not_mem ht)

theorem firstLine_append (hrest : '\n' ∉ rest) (back : Text) :
    firstLine (rest ++ '\n' :: back) = rest := by
  rw [firstLine, List.takeWhile_append_of_pos (ne_feed_of_not_mem hrest),
    List.takeWhile_cons_of_neg (by decide), List.append_nil]

theorem firstLine_cons {c : Char} (hc : c ≠ '\n') (t : Text) :
    firstLine (c :: t) = c :: firstLine t :=
  List.takeWhile_cons_of_pos (bne_iff_ne.mpr hc)

theorem exists_firstLine (t : Text) :
    t = firstLine t ∨ ∃ back, t = firstLine t ++ '\n' :: back := by
  by_cases hfeed : '\n' ∈ t
  · obtain ⟨body, back, rfl, hbody⟩ := List.eq_append_cons_of_mem hfeed
    rw [firstLine_append hbody]
    exact .inr ⟨back, rfl⟩
  · exact .inl (firstLine_eq_self hfeed).symm

/-- Whole lines, and then the unfinished one. -/
theorem EndsStatement.exists_lines (h : EndsStatement s) : ∃ front : List Text,
    (∀ l ∈ front, IsLine l) ∧ s = front.flatten ++ lastLine s ∧ '\n' ∉ lastLine s ∧
      EndsStatement (lastLine s) ∧ blockBefore s = blockAfter none front := by
  have hended : ¬ Ended s := by
    obtain ⟨c, hc, hends⟩ := h
    intro hfeed
    obtain rfl := hfeed c hc
    exact absurd hends (by decide)
  obtain ⟨front, last, hfront, hlast, rfl⟩ := exists_rest hended
  have hlines : wholeLines (front.flatten ++ last) = front ++ [last] := by
    rw [wholeLines_flatten_append hfront, wholeLines_last hlast]
  have hline : lastLine (front.flatten ++ last) = last := by
    rw [lastLine, hlines, List.getLast?_concat, Option.getD_some]
  have hbefore : blockBefore (front.flatten ++ last) = blockAfter none front := by
    rw [blockBefore, hlines, List.dropLast_concat]
  rw [EndsStatement, List.getLast?_append_of_ne_nil _ hlast.1] at h
  rw [hline]
  exact ⟨front, hfront, rfl, hlast.2, h, hbefore⟩

/-- No closed block is under way. -/
theorem EndsStatement.running_before (h : EndsStatement s) :
    ∀ b, blockBefore s = some b → b.Running ∧ ¬ b.isClosed := by
  obtain ⟨front, hfront, -, -, -, hbefore⟩ := h.exists_lines
  intro b hb
  rw [hbefore] at hb
  exact ⟨running_of_blockAfter hfront hb, not_isClosed_of_blockAfter hb⟩

/-- What whole lines and then a text have. -/
theorem readEntries_lines (hls : ∀ l ∈ ls, IsLine l) (hms : ∀ l ∈ ms, IsLine l) (back : Text) :
    readEntries (ls.flatten ++ (ms.flatten ++ back)) =
      entriesFrom none ls ++ (entriesFrom (blockAfter none ls) ms ++
        entriesFrom (blockAfter (blockAfter none ls) ms) (wholeLines back)) := by
  rw [readEntries_eq, wholeLines_flatten_append hls, wholeLines_flatten_append hms,
    entriesFrom_append, entriesFrom_append]

/-- **Two lines or one, whatever comes after them.** -/
theorem EndsStatement.sameRead_iff_readEntries (h : EndsStatement s) (hx : IsBreak x)
    (hrest : '\n' ∉ rest) : SameRead (blockBefore s) x (lastLine s) rest ↔
      ∀ back, readEntries (s ++ x ++ (rest ++ '\n' :: back)) =
        readEntries (s ++ (rest ++ '\n' :: back)) := by
  obtain ⟨front, hfront, hs, hlast, -, hbefore⟩ := h.exists_lines
  have hbroken : ∀ l ∈ [lastLine s ++ x, rest ++ ['\n']], IsLine l :=
    List.forall_mem_cons.mpr ⟨isLine_append_break hlast hx,
      List.forall_mem_singleton.mpr ⟨rest, hrest, rfl⟩⟩
  have hwhole : ∀ l ∈ [lastLine s ++ rest ++ ['\n']], IsLine l :=
    List.forall_mem_singleton.mpr ⟨_, List.not_mem_append hlast hrest, rfl⟩
  have hread (back : Text) := readEntries_lines hfront hbroken back
  have hread' (back : Text) := readEntries_lines hfront hwhole back
  have htext (back : Text) : s ++ x ++ (rest ++ '\n' :: back) =
      front.flatten ++ ([lastLine s ++ x, rest ++ ['\n']].flatten ++ back) := by
    conv_lhs => rw [hs]
    simp
  have htext' (back : Text) : s ++ (rest ++ '\n' :: back) =
      front.flatten ++ ([lastLine s ++ rest ++ ['\n']].flatten ++ back) := by
    conv_lhs => rw [hs]
    simp
  simp only [htext, htext', hread, hread', List.append_cancel_left_eq]
  rw [SameRead, hbefore]
  constructor
  · rintro ⟨hentries, halike⟩ back
    rw [hentries, halike.entriesFrom_eq (cut_wholeLines back)]
  · intro hback
    have hentries := hback []
    rw [wholeLines, entriesFrom, entriesFrom, List.append_nil, List.append_nil] at hentries
    refine ⟨hentries, ?_⟩
    rw [← blockAfter_append, ← blockAfter_append] at hback ⊢
    have hlines : ∀ l ∈ front ++ [lastLine s ++ x, rest ++ ['\n']], IsLine l :=
      List.forall_mem_append.mpr ⟨hfront, hbroken⟩
    have hlines' : ∀ l ∈ front ++ [lastLine s ++ rest ++ ['\n']], IsLine l :=
      List.forall_mem_append.mpr ⟨hfront, hwhole⟩
    refine alike_of_entriesFrom
      (fun b hb => ⟨running_of_blockAfter hlines hb, not_isClosed_of_blockAfter hb⟩)
      (fun b hb => ⟨running_of_blockAfter hlines' hb, not_isClosed_of_blockAfter hb⟩) ?_
    intro ls hls
    have hmore := hback ls.flatten
    rw [hentries, wholeLines_flatten hls] at hmore
    exact List.append_cancel_left hmore

/-! ## Breaking a line -/

variable {c : Char}

theorem mark_not_mem_lastLine (h : EndsStatement s) (hmark : commentMark ∉ s) :
    commentMark ∉ lastLine s := by
  obtain ⟨front, -, hs, -⟩ := h.exists_lines
  rw [hs] at hmark
  exact fun hmem => hmark (List.mem_append_right _ hmem)

/-- Exactly what may stand on the next line gives the same entries there, with any lines after. -/
theorem EndsStatement.rejoins_iff_readEntries (h : EndsStatement s) (hmark : commentMark ∉ s)
    (hx : IsBreak x) (hrest : '\n' ∉ rest) : Rejoins (blockBefore s) (lastLine s) rest ↔
      ∀ back, readEntries (s ++ x ++ (rest ++ '\n' :: back)) =
        readEntries (s ++ (rest ++ '\n' :: back)) := by
  obtain ⟨front, -, -, hlast, hends, -⟩ := h.exists_lines
  rw [rejoins_iff hx hends hlast hrest (mark_not_mem_lastLine h hmark) h.running_before]
  exact h.sameRead_iff_readEntries hx hrest

/-- A line that may be broken has the same entries when it is. -/
theorem EndsStatement.readEntries_broken (h : EndsStatement s) (hmark : commentMark ∉ s)
    (hx : IsBreak x) (hrejoins : Rejoins (blockBefore s) (lastLine s) (firstLine t)) :
    readEntries (s ++ x ++ t) = readEntries (s ++ t) := by
  have hback := (h.rejoins_iff_readEntries hmark hx (feed_not_mem_firstLine t)).mp hrejoins
  rcases exists_firstLine t with ht | ⟨back, ht⟩
  · -- The line break that the last line lacks is not missed.
    have hfed := hback []
    rw [← ht, ← List.append_assoc, ← List.append_assoc, readEntries_break (.inl rfl),
      readEntries_break (.inl rfl)] at hfed
    exact hfed
  · rw [ht]
    exact hback back

/-! ## Breaking many lines -/

/-- A break between the texts does no harm: it is within the braces of a block, or between blocks
and in front of none, or what it puts on the next line is idle. -/
def Harmless (s t : Text) : Prop :=
  InBraces (withLine (blockBefore s) (lastLine s)) ∨
    (withLine (blockBefore s) (lastLine s) = none ∧ ¬ beginsBlock (firstLine t)) ∨
      Idle (firstLine t)

instance : Decidable (Harmless s t) :=
  inferInstanceAs (Decidable (_ ∨ _ ∧ _ ∨ _))

/-- A line that begins no block goes unnoticed between blocks. -/
theorem rejoins_between (hnone : withLine under front = none) (hbegins : ¬ beginsBlock rest) :
    Rejoins under front rest := by
  have hrest : withLine none rest = none := if_neg hbegins
  rw [Rejoins, hnone]
  exact ⟨by rw [hrest]; rfl, by rw [hrest]; rfl⟩

theorem Harmless.rejoins (hharmless : Harmless s t) (h : EndsStatement s)
    (hmark : commentMark ∉ s) : Rejoins (blockBefore s) (lastLine s) (firstLine t) := by
  obtain ⟨front, -, -, hlast, hends, -⟩ := h.exists_lines
  rcases hharmless with hbraces | ⟨hnone, hbegins⟩ | hidle
  · exact rejoins_of_inBraces hbraces
  · exact rejoins_between hnone hbegins
  · exact rejoins_of_idle hidle hends hlast (feed_not_mem_firstLine t)
      (mark_not_mem_lastLine h hmark) h.running_before

/-- The second text is the first with line feeds after some ends of statements. -/
inductive Spread : Text → Text → Prop
  | nil : Spread [] []
  | keep {c : Char} {t wide : Text} (h : Spread t wide) : Spread (c :: t) (c :: wide)
  | broken {c : Char} {t wide : Text} (hc : endsStatement c) (h : Spread t wide) :
      Spread (c :: t) (c :: '\n' :: wide)

theorem endsStatement_concat (hc : endsStatement c) (s : Text) : EndsStatement (s ++ [c]) :=
  ⟨c, List.getLast?_concat, hc⟩

theorem EndsStatement.append (h : EndsStatement t) (s : Text) : EndsStatement (s ++ t) := by
  obtain ⟨body, c, rfl, hc⟩ := h.exists_concat
  rw [← List.append_assoc]
  exact endsStatement_concat hc _

/-- The first line stays as it is, or ends where it is broken. -/
theorem Spread.firstLine_eq (h : Spread t wide) : firstLine wide = firstLine t ∨
    ∃ rest, EndsStatement (firstLine wide) ∧ firstLine t = firstLine wide ++ rest := by
  induction h with
  | nil => exact .inl rfl
  | @keep c t wide _ ih =>
    by_cases hc : c = '\n'
    · subst hc
      exact .inl rfl
    rw [firstLine_cons hc, firstLine_cons hc]
    rcases ih with hsame | ⟨rest, hends, hrest⟩
    · exact .inl (congrArg _ hsame)
    · exact .inr ⟨rest, hends.append [c], congrArg _ hrest⟩
  | @broken c t wide hc _ _ =>
    have hfeed : c ≠ '\n' := by
      rintro rfl
      exact absurd hc (by decide)
    rw [firstLine_cons hfeed, firstLine_cons hfeed]
    exact .inr ⟨_, endsStatement_concat hc [], rfl⟩

theorem Idle.of_append (hidle : Idle (front ++ rest)) (h : EndsStatement front) : Idle front := by
  obtain ⟨hassign, hbrace, -⟩ := hidle
  have hnone : '\x7b' ∉ front := fun hmem => hbrace (List.mem_append_left _ hmem)
  refine ⟨fun hmem => hassign (List.mem_append_left _ hmem), hnone, fun hbegins => ?_⟩
  exact hnone (h.beginsBlock_iff.mp hbegins).2

/-- What does no harm before a text does none before it with more breaks. -/
theorem Harmless.of_spread (hharmless : Harmless s t) (h : Spread t wide) : Harmless s wide := by
  rcases h.firstLine_eq with hsame | ⟨rest, hends, hrest⟩
  · rw [Harmless, hsame]
    exact hharmless
  · rcases hharmless with hbraces | ⟨hnone, hbegins⟩ | hidle
    · exact .inl hbraces
    · refine .inr (.inl ⟨hnone, fun hshort => hbegins ?_⟩)
      rw [hrest]
      exact (hends.beginsBlock_append rest).mpr (hends.beginsBlock_iff.mp hshort)
    · rw [hrest] at hidle
      exact .inr (.inr (hidle.of_append hends))

/-- Breaks that do no harm change nothing, whatever is before them. -/
theorem Spread.readEntries_append (h : Spread t wide) (hmark : commentMark ∉ s ++ t)
    (hharmless : ∀ front back, t = front ++ back → EndsStatement front →
      Harmless (s ++ front) back) : readEntries (s ++ wide) = readEntries (s ++ t) := by
  -- A break is put in after those behind it, for what is before it has to stay as it was.
  induction h generalizing s with
  | nil => rfl
  | @keep c t wide _ ih =>
    rw [List.append_cons] at hmark ⊢
    rw [List.append_cons s c t]
    refine ih hmark fun front back ht hends => ?_
    rw [List.append_assoc]
    exact hharmless (c :: front) back (congrArg _ ht) (hends.append [c])
  | @broken c t wide hc hrest ih =>
    rw [List.append_cons] at hmark
    have hbehind : readEntries (s ++ [c] ++ wide) = readEntries (s ++ [c] ++ t) := by
      refine ih hmark fun front back ht hends => ?_
      rw [List.append_assoc]
      exact hharmless (c :: front) back (congrArg _ ht) (hends.append [c])
    have hends : EndsStatement (s ++ [c]) := endsStatement_concat hc s
    have hfront : commentMark ∉ s ++ [c] := fun hmem => hmark (List.mem_append_left _ hmem)
    have hhere : Harmless (s ++ [c]) wide :=
      (hharmless [c] t rfl (endsStatement_concat hc [])).of_spread hrest
    have hbroken := hends.readEntries_broken hfront (.inl rfl) (hhere.rejoins hends hfront)
    rw [List.append_cons s c t, ← hbehind, ← hbroken]
    simp

/-- Breaks do no harm anywhere. -/
def Loose (config : Text) : Prop :=
  ∀ s t, config = s ++ t → EndsStatement s → Harmless s t

theorem loose_iff : Loose config ↔ ∀ n ∈ List.range (config.length + 1),
    EndsStatement (config.take n) → Harmless (config.take n) (config.drop n) := by
  constructor
  · intro h n _
    exact h _ _ (List.take_append_drop n config).symm
  · rintro h s t rfl
    have hlen : s.length < (s ++ t).length + 1 := by
      rw [List.length_append]
      omega
    have hs := h s.length (List.mem_range.mpr hlen)
    rwa [List.take_left, List.drop_left] at hs

instance : DecidablePred Loose := fun _ => decidable_of_iff' _ loose_iff

/-- The text with a line feed after every end of a statement. -/
def spreadOut (t : Text) : Text := t.flatMap fun c => if endsStatement c then [c, '\n'] else [c]

theorem spread_spreadOut (t : Text) : Spread t (spreadOut t) := by
  induction t with
  | nil => exact .nil
  | cons c t ih =>
    rw [spreadOut, List.flatMap_cons, ← spreadOut]
    by_cases hc : endsStatement c
    · rw [if_pos hc]
      exact .broken hc ih
    · rw [if_neg hc]
      exact .keep ih

/-! ## What the layout changes -/

/-- **Where a line may be broken.**  In a configuration without comments a line break after the end
of a statement changes nothing if what comes after it on its line may as well stand on the next one,
and only then, whatever lines come after it.  It may within the braces of a block, between blocks if
it begins none, and anywhere if it gives no value, opens no brace and begins no block; a
configuration that is broken only there has the same entries however often it is broken. -/
theorem layout_keeps_entries (hmark : commentMark ∉ config) :
    (∀ s t, config = s ++ t → EndsStatement s →
      (Rejoins (blockBefore s) (lastLine s) (firstLine t) →
        ∀ x, IsBreak x → readEntries (s ++ x ++ t) = readEntries config) ∧
      (Rejoins (blockBefore s) (lastLine s) (firstLine t) ↔
        ∀ back, readEntries (s ++ ['\n'] ++ (firstLine t ++ '\n' :: back)) =
          readEntries (s ++ (firstLine t ++ '\n' :: back))) ∧
      (Harmless s t → Rejoins (blockBefore s) (lastLine s) (firstLine t))) ∧
    (Loose config → ∀ wide, Spread config wide → readEntries wide = readEntries config) := by
  constructor
  · rintro s t rfl hends
    have hfront : commentMark ∉ s := fun hmem => hmark (List.mem_append_left _ hmem)
    exact ⟨fun hrejoins x hx => hends.readEntries_broken hfront hx hrejoins,
      hends.rejoins_iff_readEntries hfront (.inl rfl) (feed_not_mem_firstLine t),
      fun hharmless => hharmless.rejoins hends hfront⟩
  · intro hharmless wide hwide
    exact hwide.readEntries_append (s := []) hmark hharmless

/-- Two blocks, each on a line. -/
def twoLines : Text :=
  "EXPORT \x7bExport_Id = 1;Path = /a;\x7d\nEXPORT \x7bExport_Id = 2;Path = /b;\x7d\n"

/-- Blocks that have a line each may be spread. -/
theorem layout_of_two_lines : commentMark ∉ twoLines ∧ Loose twoLines ∧
    readEntries (spreadOut twoLines) = readEntries twoLines ∧
      readEntries twoLines = [⟨1, ⟨"/a"⟩, ""⟩, ⟨2, ⟨"/b"⟩, ""⟩] := by
  have hmark : commentMark ∉ twoLines := by decide
  have hloose : Loose twoLines := by decide
  exact ⟨hmark, hloose, (layout_keeps_entries hmark).2 hloose _ (spread_spreadOut _), by decide⟩

/-- A block that follows another one on its line takes its place; with a line break between them
both are there. -/
theorem layout_shows_entries :
    readEntries ("EXPORT \x7b Export_Id = 1; Path = /a; \x7d" ++
        " EXPORT \x7b Export_Id = 2; Path = /b; \x7d\n") = [⟨2, ⟨"/b"⟩, ""⟩] ∧
      readEntries ("EXPORT \x7b Export_Id = 1; Path = /a; \x7d\n" ++
        " EXPORT \x7b Export_Id = 2; Path = /b; \x7d\n") = [⟨1, ⟨"/a"⟩, ""⟩, ⟨2, ⟨"/b"⟩, ""⟩] := by
  decide

end ShareAgent.Export
