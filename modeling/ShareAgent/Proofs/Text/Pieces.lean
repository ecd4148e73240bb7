import ShareAgent.Text.Split

/-! # Pieces and ends of a text

The pieces between separators follow from one equation for a separator in the middle of a text
(`pieces_append_cons`); what stands before and after the first mark follows from one for the mark
(`cut_mark`).  Trimming a text does not see what it drops at the ends.
-/
namespace ShareAgent.Text

variable {α : Type} {p : α → Bool}

/-! ## Pieces -/

theorem pieces_cons_of_pos {c : α} (hc : p c = true) (t : List α) :
    pieces p (c :: t) = [] :: pieces p t := by
  rw [pieces, hc]

theorem pieces_ne_nil (p : α → Bool) (t : List α) : pieces p t ≠ [] := by
  cases t with
  | nil => simp [pieces]
  | cons c t =>
    rw [pieces]
    split <;> simp

theorem pieces_cons_of_neg {c : α} (hc : p c = false) {t run : List α} {runs : List (List α)}
    (ht : pieces p t = run :: runs) : pieces p (c :: t) = (c :: run) :: runs := by
  rw [pieces, hc, ht]

theorem pieces_eq_singleton {t : List α} (ht : ∀ c ∈ t, p c = false) : pieces p t = [t] := by
  induction t with
  | nil => rfl
  | cons c t ih =>
    obtain ⟨hc, hrest⟩ := List.forall_mem_cons.mp ht
    exact pieces_cons_of_neg hc (ih hrest)

theorem pieces_of_not_mem [BEq α] [LawfulBEq α] {c : α} {t : List α} (ht : c ∉ t) :
    pieces (· == c) t = [t] :=
  pieces_eq_singleton fun _ hmem => beq_eq_false_iff_ne.mpr fun h => ht (h ▸ hmem)

/-- **A separator ends a piece.** -/
theorem pieces_append_cons {c : α} (hc : p c = true) (s t : List α) :
    pieces p (s ++ c :: t) = pieces p s ++ pieces p t := by
  induction s with
  | nil => rw [List.nil_append, pieces_cons_of_pos hc]; rfl
  | cons d s ih =>
    rw [List.cons_append]
    cases hd : p d with
    | true => rw [pieces_cons_of_pos hd, pieces_cons_of_pos hd, ih, List.cons_append]
    | false =>
      obtain ⟨run, runs, hs⟩ := List.exists_cons_of_ne_nil (pieces_ne_nil p s)
      rw [hs, List.cons_append] at ih
      rw [pieces_cons_of_neg hd hs, pieces_cons_of_neg hd ih, List.cons_append]

/-- What has no separators goes into the first piece. -/
theorem pieces_append_of_neg {s : List α} (hs : ∀ c ∈ s, p c = false) {t run : List α}
    {runs : List (List α)} (ht : pieces p t = run :: runs) :
    pieces p (s ++ t) = (s ++ run) :: runs := by
  induction s with
  | nil => exact ht
  | cons c s ih =>
    obtain ⟨hc, hrest⟩ := List.forall_mem_cons.mp hs
    exact pieces_cons_of_neg hc (ih hrest)

/-- What is no separator is added to the last piece. -/
theorem pieces_concat {c : α} (hc : p c = false) (t : List α) : ∃ (runs : List (List α))
    (run : List α), pieces p t = runs ++ [run] ∧ pieces p (t ++ [c]) = runs ++ [run ++ [c]] := by
  induction t with
  | nil => exact ⟨[], [], rfl, pieces_cons_of_neg hc rfl⟩
  | cons d t ih =>
    obtain ⟨runs, run, ht, htc⟩ := ih
    cases hd : p d with
    | true =>
      refine ⟨[] :: runs, run, ?_, ?_⟩
      · rw [pieces_cons_of_pos hd, ht, List.cons_append]
      · rw [List.cons_append, pieces_cons_of_pos hd, htc, List.cons_append]
    | false =>
      cases runs with
      | nil =>
        refine ⟨[], d :: run, ?_, ?_⟩
        · rw [pieces_cons_of_neg hd ht, List.nil_append]
        · rw [List.cons_append, pieces_cons_of_neg hd htc, List.nil_append, List.cons_append]
      | cons first runs =>
        refine ⟨(d :: first) :: runs, run, ?_, ?_⟩
        · exact pieces_cons_of_neg hd ht
        · exact pieces_cons_of_neg hd htc

/-- A piece has no separators. -/
theorem mem_of_mem_pieces {t run : List α} (hrun : run ∈ pieces p t) {c : α} (hc : c ∈ run) :
    c ∈ t ∧ p c = false := by
  induction t generalizing run with
  | nil =>
    rw [pieces, List.mem_singleton] at hrun
    rw [hrun] at hc
    cases hc
  | cons d t ih =>
    cases hd : p d with
    | true =>
      rw [pieces_cons_of_pos hd] at hrun
      rcases List.mem_cons.mp hrun with rfl | hrun
      · cases hc
      · exact ⟨.tail _ (ih hrun hc).1, (ih hrun hc).2⟩
    | false =>
      obtain ⟨first, runs, ht⟩ := List.exists_cons_of_ne_nil (pieces_ne_nil p t)
      rw [pieces_cons_of_neg hd ht] at hrun
      rw [ht] at ih
      rcases List.mem_cons.mp hrun with rfl | hrun
      · rcases List.mem_cons.mp hc with rfl | hc
        · exact ⟨.head _, hd⟩
        · exact ⟨.tail _ (ih (.head _) hc).1, (ih (.head _) hc).2⟩
      · exact ⟨.tail _ (ih (.tail _ hrun) hc).1, (ih (.tail _ hrun) hc).2⟩

/-- The pieces are the text without its separators. -/
theorem flatten_pieces (p : α → Bool) (t : List α) : (pieces p t).flatten = t.filter (! p ·) := by
  induction t with
  | nil => rfl
  | cons c t ih =>
    cases hc : p c with
    | true => rw [pieces_cons_of_pos hc, List.filter_cons_of_neg (by simp [hc])]; exact ih
    | false =>
      obtain ⟨run, runs, ht⟩ := List.exists_cons_of_ne_nil (pieces_ne_nil p t)
      rw [ht] at ih
      rw [pieces_cons_of_neg hc ht, List.filter_cons_of_pos (by simp [hc]), ← ih]
      rfl

/-- What is no separator stands in a piece. -/
theorem filter_pieces_ne_nil {c : α} {t : List α} (hc : c ∈ t) (hp : p c = false) :
    (pieces p t).filter (! ·.isEmpty) ≠ [] := by
  have hflat : c ∈ (pieces p t).flatten := by
    rw [flatten_pieces]
    exact List.mem_filter.mpr ⟨hc, by simp [hp]⟩
  obtain ⟨run, hrun, hmem⟩ := List.mem_flatten.mp hflat
  refine List.ne_nil_of_mem (List.mem_filter.mpr ⟨hrun, ?_⟩)
  cases run with
  | nil => cases hmem
  | cons _ _ => rfl

/-! ## Words -/

/-- **A blank ends a word.** -/
theorem words_append_cons {c : Char} (hc : isBlank c = true) (s t : Text) :
    words (s ++ c :: t) = words s ++ words t := by
  rw [words, pieces_append_cons hc, List.filter_append, ← words, ← words]

theorem words_eq_singleton {t : Text} (ht : ∀ c ∈ t, isBlank c = false) (hne : t ≠ []) :
    words t = [t] := by
  rw [words, pieces_eq_singleton ht]
  simp [hne]

/-- A blank at the end is not seen. -/
theorem words_concat {c : Char} (hc : isBlank c = true) (t : Text) :
    words (t ++ [c]) = words t := by
  rw [words_append_cons hc]
  exact List.append_nil _

theorem words_ne_nil {c : Char} {t : Text} (hc : c ∈ t) (hblank : isBlank c = false) :
    words t ≠ [] :=
  filter_pieces_ne_nil hc hblank

/-! ## The first mark -/

variable {mark : Char}

theorem cut_mark {front : Text} (hfront : mark ∉ front) (back : Text) :
    cut mark (front ++ mark :: back) = some (front, back) := by
  induction front with
  | nil => simp [cut]
  | cons c front ih =>
    have hc : c ≠ mark := fun h => hfront (h ▸ .head _)
    rw [List.cons_append, cut, if_neg hc, ih fun h => hfront (.tail _ h)]
    rfl

theorem cut_eq_none {t : Text} (ht : mark ∉ t) : cut mark t = none := by
  induction t with
  | nil => rfl
  | cons c t ih =>
    have hc : c ≠ mark := fun h => ht (h ▸ .head _)
    rw [cut, if_neg hc, ih fun h => ht (.tail _ h), Option.map_none]

/-- What is cut at a mark is cut at the first one. -/
theorem cut_eq_some_iff {t front back : Text} :
    cut mark t = some (front, back) ↔ mark ∉ front ∧ t = front ++ mark :: back := by
  constructor
  · intro h
    by_cases ht : mark ∈ t
    · obtain ⟨first, rest, rfl, hfirst⟩ := List.eq_append_cons_of_mem ht
      rw [cut_mark hfirst] at h
      obtain ⟨rfl, rfl⟩ := Prod.mk.inj (Option.some.inj h)
      exact ⟨hfirst, rfl⟩
    · rw [cut_eq_none ht] at h
      cases h
  · rintro ⟨hfront, rfl⟩
    exact cut_mark hfront back

theorem cut_concat {c : Char} (hc : c ≠ mark) (t : Text) :
    cut mark (t ++ [c]) = (cut mark t).map fun (front, back) => (front, back ++ [c]) := by
  induction t with
  | nil => simp [cut, hc]
  | cons d t ih =>
    rw [List.cons_append, cut, cut]
    by_cases hd : d = mark
    · rw [if_pos hd, if_pos hd]
      rfl
    · rw [if_neg hd, if_neg hd, ih, Option.map_map, Option.map_map]
      rfl

/-! ## The first occurrence of a longer mark -/

variable {marks : Text}

/-- What no occurrence begins in is in front of the first one. -/
theorem cutAt_cons_of_not_prefix {c : Char} {t : Text} (h : ¬ marks <+: c :: t) :
    cutAt marks (c :: t) = (cutAt marks t).map fun (front, back) => (c :: front, back) := by
  rw [cutAt, if_neg (by simpa using h)]

/-- What no occurrence ends with is behind the first one. -/
theorem cutAt_concat {c : Char} (hmarks : marks ≠ []) (hc : marks.getLast? ≠ some c) (t : Text) :
    cutAt marks (t ++ [c]) = (cutAt marks t).map fun cut => (cut.1, cut.2 ++ [c]) := by
  have hbegins : ∀ s : Text, marks <+: s ++ [c] ↔ marks <+: s := by
    intro s
    rw [List.prefix_concat_iff]
    refine or_iff_right fun h => hc ?_
    rw [h, List.getLast?_concat]
  induction t with
  | nil =>
    have hnil : ¬ marks <+: [c] := fun h => hmarks (List.prefix_nil.mp ((hbegins []).mp h))
    rw [List.nil_append, cutAt_cons_of_not_prefix hnil]
    rfl
  | cons d t ih =>
    rw [List.cons_append]
    by_cases h : marks <+: d :: t
    · have hlength : marks.length ≤ (d :: t).length := h.length_le
      have hlong : marks <+: d :: (t ++ [c]) := (hbegins (d :: t)).mpr h
      rw [cutAt, cutAt, if_pos (List.isPrefixOf_iff_prefix.mpr hlong),
        if_pos (List.isPrefixOf_iff_prefix.mpr h), ← List.cons_append,
        List.drop_append_of_le_length hlength]
      rfl
    · have hlong : ¬ marks <+: d :: (t ++ [c]) := fun hlong => h ((hbegins (d :: t)).mp hlong)
      rw [ cutAt_cons_of_not_prefix h, cutAt_cons_of_not_prefix hlong, ih, Option.map_map,
        Option.map_map]
      rfl

/-- A mark is found, and no later than where it stands. -/
theorem exists_cutAt (hmarks : marks ≠ []) (front back : Text) : ∃ first rest,
    cutAt marks (front ++ marks ++ back) = some (first, rest) ∧
      first <+: front ∧ back <:+ rest := by
  induction front with
  | nil =>
    obtain ⟨c, others, rfl⟩ := List.exists_cons_of_ne_nil hmarks
    refine ⟨[], back, ?_, List.prefix_rfl, List.suffix_rfl⟩
    simp [cutAt]
  | cons c front ih =>
    by_cases hprefix : marks <+: c :: (front ++ marks ++ back)
    · refine ⟨[], (c :: (front ++ marks ++ back)).drop marks.length, ?_, List.nil_prefix, ?_⟩
      · rw [List.cons_append, List.cons_append, cutAt, if_pos (by simpa using hprefix)]
      · -- The mark in front is no longer than what stands before `back`.
        have hback : back <:+ c :: (front ++ marks ++ back) :=
          (List.suffix_append (front ++ marks) back).trans (List.suffix_cons c _)
        refine List.suffix_of_suffix_length_le hback (List.drop_suffix _ _) ?_
        simp only [List.length_drop, List.length_cons, List.length_append]
        omega
    · obtain ⟨first, rest, hcut, hfirst, hrest⟩ := ih
      refine ⟨c :: first, rest, ?_, ?_, hrest⟩
      · rw [List.cons_append, List.cons_append, cutAt_cons_of_not_prefix hprefix, hcut]
        rfl
      · exact (List.prefix_cons_inj c).mpr hfirst

/-! ## Ends -/

variable {p : Char → Bool} {c : Char}

theorem trimBy_cons (hc : p c = true) (t : Text) : trimBy p (c :: t) = trimBy p t := by
  rw [trimBy, trimBy, List.dropWhile_cons_of_pos hc]

/-- What is dropped at the end is not seen. -/
theorem trimBy_concat (hc : p c = true) (t : Text) : trimBy p (t ++ [c]) = trimBy p t := by
  rw [trimBy, trimBy, List.dropWhile_append]
  by_cases hall : (t.dropWhile p).isEmpty
  · rw [if_pos hall, List.isEmpty_iff.mp hall, List.dropWhile_cons_of_pos hc]
    rfl
  · rw [if_neg hall, List.reverse_append, List.reverse_singleton, List.singleton_append,
      List.dropWhile_cons_of_pos hc]

/-- What is dropped at the ends satisfies `p`. -/
theorem trimBy_split (p : Char → Bool) (t : Text) : ∃ front back,
    t = front ++ trimBy p t ++ back ∧ (∀ c ∈ front, p c) ∧ ∀ c ∈ back, p c := by
  refine ⟨t.takeWhile p, ((t.dropWhile p).reverse.takeWhile p).reverse, ?_, ?_, ?_⟩
  · have hback : trimBy p t ++ ((t.dropWhile p).reverse.takeWhile p).reverse = t.dropWhile p := by
      rw [trimBy, ← List.reverse_append, List.takeWhile_append_dropWhile, List.reverse_reverse]
    rw [List.append_assoc, hback, List.takeWhile_append_dropWhile]
  · exact List.all_eq_true.mp List.all_takeWhile
  · exact fun c hc => List.all_eq_true.mp List.all_takeWhile c (List.mem_reverse.mp hc)

theorem trimBy_eq_self {t : Text} (ht : ∀ c ∈ t, p c = false) : trimBy p t = t := by
  have hdrop : ∀ s : Text, (∀ c ∈ s, p c = false) → s.dropWhile p = s := by
    intro s hs
    cases s with
    | nil => rfl
    | cons c s => exact List.dropWhile_cons_of_neg (by simp [hs c (.head _)])
  rw [trimBy, hdrop t ht, hdrop _ fun c hc => ht c (List.mem_reverse.mp hc), List.reverse_reverse]

end ShareAgent.Text
