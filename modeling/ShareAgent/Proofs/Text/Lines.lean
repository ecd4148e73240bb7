import ShareAgent.Text.Split

/-! # Lines of a text

Everything about lines follows from two equations: a line with its line feed in front of a text is
the first line of it (`wholeLines_line`), and a text without a line feed is one line
(`wholeLines_last`).  Texts are taken apart in the same two ways (`induction_lines`), so what is
read line by line is proved line by line.
-/
namespace ShareAgent.Text

variable {l s t : Text} {ls : List Text}

/-- A line with its line feed. -/
def IsLine (l : Text) : Prop := ∃ body, '\n' ∉ body ∧ l = body ++ ['\n']

/-- A line at the end of a text that ends without a line feed. -/
def IsRest (l : Text) : Prop := l ≠ [] ∧ '\n' ∉ l

/-- The text ends with a line feed, or is empty. -/
def Ended (t : Text) : Prop := ∀ c, t.getLast? = some c → c = '\n'

theorem isLine_iff : IsLine l ↔ l.getLast? = some '\n' ∧ '\n' ∉ l.dropLast := by
  constructor
  · rintro ⟨body, hbody, rfl⟩
    rw [List.getLast?_concat, List.dropLast_concat]
    exact ⟨rfl, hbody⟩
  · rintro ⟨hlast, hbody⟩
    obtain ⟨body, rfl⟩ := List.getLast?_eq_some_iff.mp hlast
    exact ⟨body, by rwa [List.dropLast_concat] at hbody, rfl⟩

instance : DecidablePred IsLine := fun _ => decidable_of_iff' _ isLine_iff

theorem IsLine.ne_nil (hl : IsLine l) : l ≠ [] := by
  obtain ⟨body, -, rfl⟩ := hl
  simp

theorem wholeLines_line (hl : IsLine l) (t : Text) : wholeLines (l ++ t) = l :: wholeLines t := by
  obtain ⟨body, hbody, rfl⟩ := hl
  induction body with
  | nil => simp [wholeLines]
  | cons c body ih =>
    have hc : c ≠ '\n' := fun h => hbody (h ▸ .head _)
    have hrest := ih fun h => hbody (.tail _ h)
    rw [List.cons_append, List.cons_append, wholeLines, if_neg hc, hrest]

theorem IsLine.wholeLines_eq (hl : IsLine l) : wholeLines l = [l] := by
  simpa [wholeLines] using wholeLines_line hl []

theorem wholeLines_last (ht : IsRest t) : wholeLines t = [t] := by
  obtain ⟨hne, hfeed⟩ := ht
  induction t with
  | nil => exact (hne rfl).elim
  | cons c t ih =>
    have hc : c ≠ '\n' := fun h => hfeed (h ▸ .head _)
    rw [wholeLines, if_neg hc]
    by_cases ht : t = []
    · subst ht
      rfl
    · rw [ih ht fun h => hfeed (.tail _ h)]

/-- A text is empty, or the rest of a line, or begins with a line. -/
theorem induction_lines {motive : Text → Prop} (nil : motive []) (rest : ∀ t, IsRest t → motive t)
    (line : ∀ l t, IsLine l → motive t → motive (l ++ t)) (t : Text) : motive t := by
  -- On the length: what follows the first line feed is shorter.
  induction hn : t.length using Nat.strongRecOn generalizing t with
  | ind n ih =>
    by_cases hfeed : '\n' ∈ t
    · obtain ⟨body, back, rfl, hbody⟩ := List.eq_append_cons_of_mem hfeed
      have hback : motive back := by
        refine ih back.length ?_ back rfl
        rw [← hn, List.length_append, List.length_cons]
        omega
      rw [List.append_cons]
      exact line _ back ⟨body, hbody, rfl⟩ hback
    · by_cases ht : t = []
      · exact ht ▸ nil
      · exact rest t ⟨ht, hfeed⟩

/-- Lines as they stand in a text: only the last may lack its line feed. -/
inductive Cut : List Text → Prop
  | nil : Cut []
  | rest {t : Text} (ht : IsRest t) : Cut [t]
  | line {l : Text} {ls : List Text} (hl : IsLine l) (h : Cut ls) : Cut (l :: ls)

theorem cut_cons : Cut (l :: ls) ↔ IsRest l ∧ ls = [] ∨ IsLine l ∧ Cut ls := by
  constructor
  · rintro (_ | hr | ⟨hl, h⟩)
    · exact .inl ⟨hr, rfl⟩
    · exact .inr ⟨hl, h⟩
  · rintro (⟨hr, rfl⟩ | ⟨hl, h⟩)
    · exact .rest hr
    · exact .line hl h

theorem cut_wholeLines (t : Text) : Cut (wholeLines t) := by
  induction t using induction_lines with
  | nil => exact .nil
  | rest t ht =>
    rw [wholeLines_last ht]
    exact .rest ht
  | line l t hl ih =>
    rw [wholeLines_line hl]
    exact .line hl ih

/-- Whole lines may stand before any others. -/
theorem Cut.append {second : List Text} (hls : ∀ l ∈ ls, IsLine l) (h : Cut second) :
    Cut (ls ++ second) := by
  induction ls with
  | nil => exact h
  | cons l ls ih =>
    obtain ⟨hl, hls⟩ := List.forall_mem_cons.mp hls
    exact .line hl (ih hls)

theorem cut_of_isLine (h : ∀ l ∈ ls, IsLine l) : Cut ls := by
  have hcut := Cut.append h .nil
  rwa [List.append_nil] at hcut

/-- Lines are found again in the text that they make up. -/
theorem Cut.wholeLines_flatten (h : Cut ls) : wholeLines ls.flatten = ls := by
  induction h with
  | nil => rfl
  | rest ht => rw [List.flatten_singleton, wholeLines_last ht]
  | line hl _ ih => rw [List.flatten_cons, wholeLines_line hl, ih]

/-- Before another line every line is whole. -/
theorem Cut.isLine_of_append {first second : List Text} (h : Cut (first ++ second))
    (hne : second ≠ []) : ∀ l ∈ first, IsLine l := by
  induction first with
  | nil => exact nofun
  | cons l first ih =>
    rcases cut_cons.mp h with ⟨-, hnil⟩ | ⟨hl, hrest⟩
    · exact (hne (List.append_eq_nil_iff.mp hnil).2).elim
    · exact List.forall_mem_cons.mpr ⟨hl, ih hrest⟩

theorem Cut.of_append_right {first second : List Text} (h : Cut (first ++ second)) :
    Cut second := by
  induction first with
  | nil => exact h
  | cons l first ih =>
    rcases cut_cons.mp h with ⟨-, hnil⟩ | ⟨-, hrest⟩
    · rw [(List.append_eq_nil_iff.mp hnil).2]
      exact .nil
    · exact ih hrest

/-- **Whole lines in front of a text are lines of it.** -/
theorem wholeLines_flatten_append (h : ∀ l ∈ ls, IsLine l) (t : Text) :
    wholeLines (ls.flatten ++ t) = ls ++ wholeLines t := by
  induction ls with
  | nil => rfl
  | cons l ls ih =>
    obtain ⟨hl, hls⟩ := List.forall_mem_cons.mp h
    rw [List.flatten_cons, List.append_assoc, wholeLines_line hl, ih hls, List.cons_append]

theorem wholeLines_flatten (h : ∀ l ∈ ls, IsLine l) : wholeLines ls.flatten = ls := by
  simpa [wholeLines] using wholeLines_flatten_append h []

/-- A text with a line feed at its end has whole lines only. -/
theorem isLine_of_ended (ht : Ended t) : ∀ l ∈ wholeLines t, IsLine l := by
  induction t using induction_lines with
  | nil => exact nofun
  | rest t hr =>
    have hlast := ht _ (List.getLast?_eq_some_getLast hr.1)
    exact (hr.2 (hlast ▸ List.getLast_mem hr.1)).elim
  | line l t hl ih =>
    rw [wholeLines_line hl]
    refine List.forall_mem_cons.mpr ⟨hl, ih fun c hc => ht c ?_⟩
    rw [List.getLast?_append, hc, Option.some_or]

theorem wholeLines_append (hs : Ended s) (t : Text) :
    wholeLines (s ++ t) = wholeLines s ++ wholeLines t := by
  have h := wholeLines_flatten_append (isLine_of_ended hs) t
  rwa [flatten_wholeLines] at h

theorem IsLine.ended (hl : IsLine l) : Ended l := by
  obtain ⟨body, -, rfl⟩ := hl
  intro c hc
  rw [List.getLast?_concat] at hc
  exact (Option.some.inj hc).symm

theorem Ended.append (hs : Ended s) (ht : Ended t) : Ended (s ++ t) := by
  intro c hc
  rw [List.getLast?_append] at hc
  cases hlast : t.getLast? with
  | none => exact hs c (by simpa [hlast] using hc)
  | some d => exact ht c (by simpa [hlast] using hc)

theorem ended_flatten (h : ∀ l ∈ ls, IsLine l) : Ended ls.flatten := by
  induction ls with
  | nil => exact nofun
  | cons l ls ih =>
    obtain ⟨hl, hls⟩ := List.forall_mem_cons.mp h
    rw [List.flatten_cons]
    exact hl.ended.append (ih hls)

/-- A text that does not end with a line feed has whole lines and then a rest. -/
theorem exists_rest (ht : ¬ Ended t) : ∃ (front : List Text) (last : Text),
    (∀ l ∈ front, IsLine l) ∧ IsRest last ∧ t = front.flatten ++ last := by
  induction t using induction_lines with
  | nil => exact (ht nofun).elim
  | rest t hr => exact ⟨[], t, nofun, hr, rfl⟩
  | line l t hl ih =>
    have hback : ¬ Ended t := fun hended => ht (hl.ended.append hended)
    obtain ⟨front, last, hfront, hlast, rfl⟩ := ih hback
    refine ⟨l :: front, last, List.forall_mem_cons.mpr ⟨hl, hfront⟩, hlast, ?_⟩
    rw [List.flatten_cons, List.append_assoc]

/-! ## Without their line breaks -/

theorem dropBreak_rest (ht : '\n' ∉ t) : dropBreak t = t := by
  rw [dropBreak]
  split
  · next hr => exact (ht (List.mem_reverse.mp (hr ▸ .head _))).elim
  · next hr => exact (ht (List.mem_reverse.mp (hr ▸ .head _))).elim
  · rfl

/-- A carriage return before the line feed goes with it. -/
theorem dropBreak_return (body : Text) : dropBreak (body ++ ['\r', '\n']) = body := by
  simp [dropBreak]

theorem dropBreak_feed {body : Text} (hbody : body.getLast? ≠ some '\r') :
    dropBreak (body ++ ['\n']) = body := by
  rw [dropBreak, List.reverse_append, List.reverse_singleton, List.singleton_append]
  split
  · next back hr =>
    have hback : body = back.reverse ++ ['\r'] := by
      rw [← List.reverse_reverse body, (List.cons.inj hr).2, List.reverse_cons]
    exact (hbody (by rw [hback, List.getLast?_concat])).elim
  · next back _ hr => rw [← (List.cons.inj hr).2, List.reverse_reverse]
  · next h => exact (h _ rfl).elim

/-- A line break: a line feed, perhaps with a carriage return before it. -/
def IsBreak (x : Text) : Prop := x = ['\n'] ∨ x = ['\r', '\n']

theorem exists_break (t : Text) : ∃ x, t = dropBreak t ++ x ∧ (x = [] ∨ IsBreak x) := by
  rw [dropBreak]
  split
  · next back hr => exact ⟨_, by simpa using List.reverse_eq_iff.mp hr, .inr (.inr rfl)⟩
  · next back _ hr => exact ⟨_, by simpa using List.reverse_eq_iff.mp hr, .inr (.inl rfl)⟩
  · exact ⟨[], (List.append_nil t).symm, .inl rfl⟩

theorem dropBreak_subset (t : Text) : dropBreak t ⊆ t := by
  obtain ⟨x, ht, -⟩ := exists_break t
  intro c hc
  rw [ht]
  exact List.mem_append_left x hc

theorem IsBreak.isLine {x : Text} (hx : IsBreak x) : IsLine x := by
  rcases hx with rfl | rfl <;> decide

theorem isLine_append_break {body x : Text} (hbody : '\n' ∉ body) (hx : IsBreak x) :
    IsLine (body ++ x) := by
  rcases hx with rfl | rfl
  · exact ⟨body, hbody, rfl⟩
  · refine ⟨body ++ ['\r'], ?_, by simp⟩
    simp [hbody]

theorem IsLine.exists_break (hl : IsLine l) : ∃ body x, '\n' ∉ body ∧ IsBreak x ∧
    l = body ++ x ∧ dropBreak l = body := by
  obtain ⟨body, hbody, rfl⟩ := hl
  by_cases hreturn : body.getLast? = some '\r'
  · obtain ⟨front, rfl⟩ := List.getLast?_eq_some_iff.mp hreturn
    refine ⟨front, _, fun hmem => hbody (List.mem_append_left _ hmem), .inr rfl, by simp, ?_⟩
    rw [List.append_assoc, List.singleton_append, dropBreak_return]
  · exact ⟨body, _, hbody, .inl rfl, rfl, dropBreak_feed hreturn⟩

/-- A line without its line break has no line feed. -/
theorem feed_not_mem_dropBreak (hl : l ∈ wholeLines t) : '\n' ∉ dropBreak l := by
  have hcut : IsRest l ∨ IsLine l := by
    obtain ⟨front, back, hlines⟩ := List.append_of_mem hl
    have hcut := cut_wholeLines t
    rw [hlines] at hcut
    rcases cut_cons.mp hcut.of_append_right with ⟨hrest, -⟩ | ⟨hline, -⟩
    · exact .inl hrest
    · exact .inr hline
  rcases hcut with ⟨-, hfeed⟩ | hline
  · exact fun hmem => hfeed (dropBreak_subset l hmem)
  · obtain ⟨body, -, hbody, -, -, hdrop⟩ := hline.exists_break
    rwa [hdrop]

end ShareAgent.Text
