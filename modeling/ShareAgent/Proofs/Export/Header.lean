import ShareAgent.Proofs.Export.Render

/-! # Longer lines

What a line is to a reader of blocks does not change with a line feed at its end, and little with
other text that has no braces: a line that begins a block and opens a brace begins one however it
goes on.  So the last line of a block may be made longer (`Gathers.extend`).
-/
namespace ShareAgent.Export
open Text

variable {b : Block} {line x : Text} {ls : List Text}

/-- The word that begins blocks, and then a brace or nothing. -/
theorem beginsBlock_iff : beginsBlock line ↔ ∃ word rest,
    trimStart line = word ++ rest ∧ lowerAscii word = blockWord ∧
      (trimStart rest = [] ∨ ∃ tail, trimStart rest = '\x7b' :: tail) := by
  simp only [beginsBlock, Bool.and_eq_true, beq_iff_eq]
  constructor
  · rintro ⟨hword, hrest⟩
    refine ⟨_, _, (List.take_append_drop _ _).symm, hword, ?_⟩
    cases h : trimStart (List.drop blockWord.length (trimStart line)) with
    | nil => exact .inl rfl
    | cons c tail =>
      rw [h] at hrest
      obtain rfl := beq_iff_eq.mp hrest
      exact .inr ⟨tail, rfl⟩
  · rintro ⟨word, rest, hline, hword, hrest⟩
    have hlength : word.length = blockWord.length := by
      rw [← hword, lowerAscii, List.length_map]
    rw [hline, ← hlength, List.take_left, List.drop_left]
    refine ⟨hword, ?_⟩
    rcases hrest with h | ⟨tail, h⟩
    · rw [h]
    · rw [h]
      rfl

theorem trimStart_append (hline : trimStart line ≠ []) (x : Text) :
    trimStart (line ++ x) = trimStart line ++ x := by
  rw [trimStart, trimStart, List.dropWhile_append, if_neg]
  simpa [trimStart, List.isEmpty_iff] using hline

theorem trimStart_append_of_nil (hline : trimStart line = []) (x : Text) :
    trimStart (line ++ x) = trimStart x := by
  rw [trimStart] at hline
  rw [trimStart, trimStart, List.dropWhile_append, if_pos (by simp [hline])]

theorem mem_trimStart {c : Char} (hc : c ∈ line) (hblank : isBlank c = false) :
    c ∈ trimStart line := by
  rw [← List.takeWhile_append_dropWhile (p := isBlank) (l := line)] at hc
  rcases List.mem_append.mp hc with hfront | hback
  · have hall := List.mem_takeWhile_imp hfront
    rw [hblank] at hall
    cases hall
  · exact hback

theorem ne_nil_of_blockWord {word : Text} (hword : lowerAscii word = blockWord) (rest : Text) :
    word ++ rest ≠ [] := by
  intro hnil
  obtain ⟨rfl, -⟩ := List.append_eq_nil_iff.mp hnil
  cases hword

/-- The word is made of letters. -/
theorem toLower_mem_blockWord {word : Text} (hword : lowerAscii word = blockWord) {c : Char}
    (hc : c ∈ word) : c.toLower ∈ blockWord := by
  rw [← hword]
  exact List.mem_map_of_mem hc

theorem not_mem_of_blockWord {word : Text} (hword : lowerAscii word = blockWord) {c : Char}
    (hc : c.toLower ∉ blockWord) : c ∉ word :=
  fun hmem => hc (toLower_mem_blockWord hword hmem)

/-- A line begins a block up to a sign that is not of the word, if it does with that sign and what
follows. -/
theorem beginsBlock_of_append_cons {c : Char} (hc : c.toLower ∉ blockWord)
    (hline : trimStart line ≠ []) (h : beginsBlock (line ++ c :: x)) : beginsBlock line := by
  rw [beginsBlock_iff] at h ⊢
  obtain ⟨word, rest, hstart, hword, hrest⟩ := h
  rw [trimStart_append hline] at hstart
  -- The word does not reach to the sign.
  rcases List.append_eq_append_iff.mp hstart with ⟨front, rfl, hlast⟩ | ⟨front, hfront, rfl⟩
  · rcases List.cons_eq_append_iff.mp hlast with ⟨rfl, -⟩ | ⟨_, rfl, -⟩
    · rw [List.append_nil] at hword
      exact ⟨_, [], (List.append_nil _).symm, hword, .inl rfl⟩
    · exact (not_mem_of_blockWord hword hc (by simp)).elim
  · refine ⟨word, front, hfront, hword, ?_⟩
    by_cases hnil : trimStart front = []
    · exact .inl hnil
    · rw [trimStart_append hnil] at hrest
      obtain ⟨d, tail, hfront'⟩ := List.exists_cons_of_ne_nil hnil
      rw [hfront'] at hrest
      rcases hrest with h | ⟨_, h⟩
      · cases h
      · obtain ⟨rfl, -⟩ := List.cons.inj h
        exact .inr ⟨tail, hfront'⟩

theorem not_beginsBlock_of_blank (hline : trimStart line = []) : ¬ beginsBlock line := by
  rw [beginsBlock_iff, hline]
  rintro ⟨word, rest, hnil, hword, -⟩
  exact ne_nil_of_blockWord hword rest hnil.symm

/-- A blank at its end does not change whether a line begins a block. -/
theorem beginsBlock_concat {c : Char} (hblank : isBlank c) (hc : c.toLower ∉ blockWord)
    (line : Text) : beginsBlock (line ++ [c]) ↔ beginsBlock line := by
  have hend : trimStart [c] = [] := by rw [trimStart, List.dropWhile_cons_of_pos hblank]; rfl
  by_cases hline : trimStart line = []
  · have hboth : trimStart (line ++ [c]) = [] := by rw [trimStart_append_of_nil hline, hend]
    exact iff_of_false (not_beginsBlock_of_blank hboth) (not_beginsBlock_of_blank hline)
  · refine ⟨beginsBlock_of_append_cons hc hline, fun h => ?_⟩
    rw [beginsBlock_iff] at h ⊢
    obtain ⟨word, rest, hstart, hword, hrest⟩ := h
    refine ⟨word, rest ++ [c], ?_, hword, ?_⟩
    · rw [trimStart_append hline, hstart, List.append_assoc]
    · rcases hrest with hnil | ⟨tail, htail⟩
      · exact .inl (by rw [trimStart_append_of_nil hnil, hend])
      · refine .inr ⟨tail ++ [c], ?_⟩
        rw [trimStart_append (by simp [htail]), htail, List.cons_append]

theorem beginsBlock_break (hx : IsBreak x) (line : Text) :
    beginsBlock (line ++ x) ↔ beginsBlock line := by
  rcases hx with rfl | rfl
  · exact beginsBlock_concat (by decide) (by decide) line
  · rw [List.append_cons, beginsBlock_concat (by decide) (by decide),
      beginsBlock_concat (by decide) (by decide)]

/-- A line that begins a block and has a brace begins one however it goes on. -/
theorem beginsBlock_append (hline : beginsBlock line) (hbrace : '\x7b' ∈ line) (x : Text) :
    beginsBlock (line ++ x) := by
  rw [beginsBlock_iff] at hline ⊢
  obtain ⟨word, rest, hline, hword, hrest⟩ := hline
  have hne : trimStart line ≠ [] := hline ▸ ne_nil_of_blockWord hword rest
  refine ⟨word, rest ++ x, ?_, hword, ?_⟩
  · rw [trimStart_append hne, hline, List.append_assoc]
  rcases hrest with hnil | ⟨tail, htail⟩
  · -- Neither the blanks before the word, nor the word, nor the blanks after it hold the brace.
    have hmem : '\x7b' ∈ word ++ rest := hline ▸ mem_trimStart hbrace (by decide)
    rcases List.mem_append.mp hmem with hin | hin
    · exact (not_mem_of_blockWord hword (by decide) hin).elim
    · exact (List.not_mem_nil (hnil ▸ mem_trimStart hin (by decide))).elim
  · refine .inr ⟨tail ++ x, ?_⟩
    rw [trimStart_append (by simp [htail]), htail, List.cons_append]

theorem Block.add_append_plain (hx : Plain x) (b : Block) (line : Text) :
    b.add (line ++ x) = { b.add line with content := (b.add line).content ++ x } := by
  obtain ⟨hopen, hclose⟩ := hx
  simp [Block.add, List.count_append, List.count_eq_zero.mpr hopen,
    List.count_eq_zero.mpr hclose, hopen]

/-- **The last line of a block may be made longer.**  What is added has no braces, and the line
begins a block as before if it is the first. -/
theorem Gathers.extend (h : Gathers (ls ++ [line]) b) (hx : Plain x)
    (hbegins : ls = [] → beginsBlock line → beginsBlock (line ++ x)) :
    Gathers (ls ++ [line ++ x]) { b with content := b.content ++ x } := by
  rcases gathers_concat.mp h with ⟨rfl, hline, rfl⟩ | ⟨b', h', hopen, rfl⟩
  · rw [← Block.add_append_plain hx]
    exact .first (hbegins rfl hline)
  · rw [← Block.add_append_plain hx]
    exact .more h' hopen

/-- A block that is closed has opened a brace, so its first line begins a block however it goes
on. -/
theorem Gathers.extend_closed (h : Gathers (ls ++ [line]) b) (hclosed : b.isClosed) (hx : Plain x) :
    Gathers (ls ++ [line ++ x]) { b with content := b.content ++ x } := by
  refine h.extend hx ?_
  rintro rfl hline
  have hb : b = Block.empty.add line := by
    rcases gathers_concat.mp h with ⟨-, -, hb⟩ | ⟨b', h', -⟩
    · exact hb
    · exact (h'.ne_nil rfl).elim
  have hbrace : '\x7b' ∈ line := by
    subst hb
    simpa [Block.isClosed, Block.add, Block.empty] using (Bool.and_eq_true_iff.mp hclosed).1
  exact beginsBlock_append hline hbrace x

/-- A line feed after a block is one in it. -/
theorem Gathers.feed (h : Gathers (ls ++ [line]) b) :
    Gathers (ls ++ [line ++ ['\n']]) { b with content := b.content ++ ['\n'] } :=
  h.extend (by decide) fun _ hline => (beginsBlock_break (.inl rfl) line).mpr hline

end ShareAgent.Export
