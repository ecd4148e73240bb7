import ShareAgent.Dialogue

/-! # Transcripts of dialogues

A dialogue does not say how its questions are answered.  A *transcript* does: it is the list of
questions asked so far, each with the answer it got.  `Dialogue.Leads` is the course of a dialogue
along a transcript, to the end or only part of the way, for any answers at all.

What is known about the answers is a relation of its own.  *Surroundings* with states `σ` say which
answers a question may get in a state and which states may follow; a transcript that they agree to
takes them from one state to another (`Follows`).  A statement about every behaviour of a host is
then a statement about every transcript that its surroundings follow.
-/
namespace ShareAgent

variable {Q : Type} {A : Q → Type} {α β ε σ : Type}

/-- A question and the answer it got. -/
structure Exchange (A : Q → Type) where
  question : Q
  answer : A question

namespace Dialogue

/-- `d.Leads exchanges rest`: with these answers, in this order, `rest` is what is left of `d`. -/
inductive Leads : Dialogue A α → List (Exchange A) → Dialogue A α → Prop
  | here (d : Dialogue A α) : Leads d [] d
  | ask {q : Q} {next : A q → Dialogue A α} (answer : A q) {exchanges : List (Exchange A)}
      {rest : Dialogue A α} (h : Leads (next answer) exchanges rest) :
      Leads (.ask q next) (⟨q, answer⟩ :: exchanges) rest

@[simp] theorem leads_ask {q : Q} {next : A q → Dialogue A α} {answer : A q}
    {exchanges : List (Exchange A)} {rest : Dialogue A α} :
    (ask q next).Leads (⟨q, answer⟩ :: exchanges) rest ↔ (next answer).Leads exchanges rest := by
  constructor
  · intro h
    cases h
    assumption
  · exact .ask answer

/-- What is asked first is over and done with. -/
theorem leads_bind_append {d : Dialogue A α} {f : α → Dialogue A β} {a : α} {rest : Dialogue A β}
    {first second : List (Exchange A)} (h : d.Leads first (.done a)) :
    (d.bind f).Leads (first ++ second) rest ↔ (f a).Leads second rest := by
  generalize hend : (done a : Dialogue A α) = last at h
  induction h with
  | here => subst hend; rfl
  | ask answer _ ih => exact leads_ask.trans (ih hend)

/-- A dialogue of two parts ends where the second one does. -/
theorem leads_bind {d : Dialogue A α} {f : α → Dialogue A β} {exchanges : List (Exchange A)}
    {b : β} : (d.bind f).Leads exchanges (.done b) ↔ ∃ first second a,
      exchanges = first ++ second ∧ d.Leads first (.done a) ∧ (f a).Leads second (.done b) := by
  constructor
  · intro h
    induction d generalizing exchanges with
    | done a => exact ⟨[], exchanges, a, rfl, .here _, h⟩
    | ask q next ih =>
      rcases h with _ | ⟨answer, h⟩
      obtain ⟨first, second, a, rfl, hfirst, hsecond⟩ := ih answer h
      exact ⟨⟨q, answer⟩ :: first, second, a, rfl, .ask answer hfirst, hsecond⟩
  · rintro ⟨first, second, a, rfl, hfirst, hsecond⟩
    exact (leads_bind_append hfirst).mpr hsecond

/-- A dialogue of two parts is in the first one or has reached the second. -/
theorem Leads.bind_cases {d : Dialogue A α} {f : α → Dialogue A β} {exchanges : List (Exchange A)}
    {rest : Dialogue A β} (h : (d.bind f).Leads exchanges rest) :
    (∃ middle, d.Leads exchanges middle) ∨ ∃ first second a, exchanges = first ++ second ∧
      d.Leads first (.done a) ∧ (f a).Leads second rest := by
  induction d generalizing exchanges with
  | done a => exact .inr ⟨[], exchanges, a, rfl, .here _, h⟩
  | ask q next ih =>
    rcases h with _ | ⟨answer, h⟩
    · exact .inl ⟨_, .here _⟩
    rcases ih answer h with ⟨middle, hmiddle⟩ | ⟨first, second, a, rfl, hfirst, hsecond⟩
    · exact .inl ⟨middle, .ask answer hmiddle⟩
    · exact .inr ⟨⟨q, answer⟩ :: first, second, a, rfl, .ask answer hfirst, hsecond⟩

@[simp] theorem leads_done {a b : α} {exchanges : List (Exchange A)} :
    (done a : Dialogue A α).Leads exchanges (.done b) ↔ exchanges = [] ∧ b = a := by
  constructor
  · rintro ⟨⟩
    exact ⟨rfl, rfl⟩
  · rintro ⟨rfl, rfl⟩
    exact .here _

theorem leads_put {q : Q} {a : A q} {exchanges : List (Exchange A)} :
    (put q : Dialogue A (A q)).Leads exchanges (.done a) ↔ exchanges = [⟨q, a⟩] := by
  constructor
  · rintro (_ | ⟨answer, h⟩)
    obtain ⟨rfl, rfl⟩ := leads_done.mp h
    rfl
  · rintro rfl
    exact leads_ask.mpr (.here _)

/-- What a result is turned into at the end is no part of the course. -/
theorem leads_map {f : α → β} {d : Dialogue A α} {exchanges : List (Exchange A)} {b : β} :
    (d.bind fun a => .done (f a)).Leads exchanges (.done b) ↔
      ∃ a, d.Leads exchanges (.done a) ∧ b = f a := by
  simp only [leads_bind, leads_done]
  constructor
  · rintro ⟨first, _, a, rfl, hfirst, rfl, hb⟩
    exact ⟨a, by rwa [List.append_nil], hb⟩
  · rintro ⟨a, hlead, hb⟩
    exact ⟨exchanges, [], a, (List.append_nil _).symm, hlead, rfl, hb⟩

/-- A single question, and what is made of its answer. -/
theorem leads_ask_done {q : Q} {f : A q → α} {exchanges : List (Exchange A)} {a : α} :
    (ask q fun answer => done (f answer)).Leads exchanges (.done a) ↔
      ∃ answer, exchanges = [⟨q, answer⟩] ∧ a = f answer := by
  simp only [← leads_put]
  exact leads_map (d := put q)

/-- What succeeds first is over and done with. -/
theorem leads_run_bind {x : ExceptT ε (Dialogue A) α} {f : α → ExceptT ε (Dialogue A) β} {a : α}
    {rest : Dialogue A (Except ε β)} {first second : List (Exchange A)}
    (h : x.run.Leads first (.done (.ok a))) :
    (x >>= f).run.Leads (first ++ second) rest ↔ (f a).run.Leads second rest := by
  rw [ExceptT.run_bind]
  exact leads_bind_append h

/-- Of two parts that can fail, the first fails, or the second goes on with what it gave. -/
theorem leads_run_bind_iff {x : ExceptT ε (Dialogue A) α} {f : α → ExceptT ε (Dialogue A) β}
    {exchanges : List (Exchange A)} {result : Except ε β} :
    (x >>= f).run.Leads exchanges (.done result) ↔
      (∃ e, x.run.Leads exchanges (.done (.error e)) ∧ result = .error e) ∨
      ∃ first second a, exchanges = first ++ second ∧ x.run.Leads first (.done (.ok a)) ∧
        (f a).run.Leads second (.done result) := by
  rw [ExceptT.run_bind, bind_eq, leads_bind]
  constructor
  · rintro ⟨first, second, e | a, rfl, hfirst, hsecond⟩
    · obtain ⟨rfl, rfl⟩ := leads_done.mp hsecond
      exact .inl ⟨e, by rwa [List.append_nil], rfl⟩
    · exact .inr ⟨first, second, a, rfl, hfirst, hsecond⟩
  · rintro (⟨e, hfirst, rfl⟩ | ⟨first, second, a, rfl, hfirst, hsecond⟩)
    · exact ⟨exchanges, [], .error e, (List.append_nil _).symm, hfirst, .here _⟩
    · exact ⟨first, second, .ok a, rfl, hfirst, hsecond⟩

/-- A beginning of two lists ends in the first or reaches into the second. -/
theorem prefix_append_cases {l first second : List α} (h : l <+: first ++ second) :
    l <+: first ∨ ∃ others, l = first ++ others ∧ others <+: second := by
  rcases List.prefix_or_prefix_of_prefix h (List.prefix_append first second) with hl | hl
  · exact .inl hl
  · obtain ⟨others, rfl⟩ := hl
    exact .inr ⟨others, rfl, (List.prefix_append_right_inj _).mp h⟩

/-- **A transcript can be cut anywhere**: each of its beginnings is a transcript. -/
theorem Leads.of_prefix {d rest : Dialogue A α} {exchanges first : List (Exchange A)}
    (h : d.Leads exchanges rest) (hfirst : first <+: exchanges) :
    ∃ middle, d.Leads first middle := by
  induction h generalizing first with
  | here d => exact ⟨d, by rw [List.prefix_nil.mp hfirst]; exact .here d⟩
  | ask answer _ ih =>
    rcases List.prefix_cons_iff.mp hfirst with rfl | ⟨others, rfl, hothers⟩
    · exact ⟨_, .here _⟩
    · obtain ⟨middle, hm⟩ := ih hothers
      exact ⟨middle, .ask answer hm⟩

end Dialogue

/-- What may happen around a dialogue: `w q s answer s'` if the question `q` can be answered by
`answer` in the state `s`, and lead to the state `s'`. -/
abbrev Surroundings (A : Q → Type) (σ : Type) := (q : Q) → σ → A q → σ → Prop

namespace Surroundings
variable (w : Surroundings A σ)

/-- The exchanges can happen one after the other and take the surroundings from `s` to `s'`. -/
def Follows : σ → List (Exchange A) → σ → Prop
  | s, [], s' => s' = s
  | s, x :: rest, s' => ∃ middle, w x.question s x.answer middle ∧ Follows middle rest s'

@[simp] theorem follows_nil {s s' : σ} : w.Follows s [] s' ↔ s' = s := .rfl

@[simp] theorem follows_cons {s s' : σ} {x : Exchange A} {rest : List (Exchange A)} :
    w.Follows s (x :: rest) s' ↔
      ∃ middle, w x.question s x.answer middle ∧ w.Follows middle rest s' := .rfl

theorem follows_append {s s' : σ} {first second : List (Exchange A)} :
    w.Follows s (first ++ second) s' ↔ ∃ middle, w.Follows s first middle ∧
      w.Follows middle second s' := by
  induction first generalizing s with
  | nil => simp
  | cons x rest ih =>
    simp only [List.cons_append, follows_cons, ih]
    constructor
    · rintro ⟨t, hx, middle, hrest, hsecond⟩
      exact ⟨middle, ⟨t, hx, hrest⟩, hsecond⟩
    · rintro ⟨middle, ⟨t, hx, hrest⟩, hsecond⟩
      exact ⟨t, hx, middle, hrest, hsecond⟩

theorem Follows.mono {w w' : Surroundings A σ}
    (hw : ∀ q s answer s', w q s answer s' → w' q s answer s') {s s' : σ}
    {exchanges : List (Exchange A)} (h : w.Follows s exchanges s') : w'.Follows s exchanges s' := by
  induction exchanges generalizing s with
  | nil => exact h
  | cons x rest ih =>
    obtain ⟨middle, hx, hrest⟩ := h
    exact ⟨middle, hw _ _ _ _ hx, ih hrest⟩

/-- Surroundings that answer anything and only keep the transcript. -/
def recorder : Surroundings A (List (Exchange A)) :=
  fun q past answer now => now = past ++ [⟨q, answer⟩]

theorem follows_recorder (past exchanges : List (Exchange A)) :
    recorder.Follows past exchanges (past ++ exchanges) := by
  induction exchanges generalizing past with
  | nil => simp
  | cons x rest ih =>
    refine ⟨past ++ [x], rfl, ?_⟩
    simpa using ih (past ++ [x])

/-- Surroundings that answer each question in one way, and keep the transcript. -/
def steady (answers : (q : Q) → A q) : Surroundings A (List (Exchange A)) :=
  fun q past answer now => answer = answers q ∧ now = past ++ [⟨q, answer⟩]

theorem follows_steady {answers : (q : Q) → A q} {past exchanges now : List (Exchange A)} :
    (steady answers).Follows past exchanges now ↔
      now = past ++ exchanges ∧ ∀ x ∈ exchanges, x.answer = answers x.question := by
  induction exchanges generalizing past with
  | nil => simp
  | cons x rest ih =>
    simp only [follows_cons, ih, List.forall_mem_cons]
    constructor
    · rintro ⟨_, ⟨hx, rfl⟩, rfl, hrest⟩
      exact ⟨List.append_assoc past [x] rest, hx, hrest⟩
    · rintro ⟨rfl, hx, hrest⟩
      exact ⟨past ++ [x], ⟨hx, rfl⟩, (List.append_assoc past [x] rest).symm, hrest⟩

end Surroundings

namespace Dialogue

/-- The dialogue can be held with these surroundings from `s` to its end, with the result `a` and
the surroundings in `s'` then. -/
def Ends (w : Surroundings A σ) (d : Dialogue A α) (s : σ) (a : α) (s' : σ) : Prop :=
  ∃ exchanges, d.Leads exchanges (.done a) ∧ w.Follows s exchanges s'

theorem Ends.mono {w w' : Surroundings A σ}
    (hw : ∀ q s answer s', w q s answer s' → w' q s answer s') {d : Dialogue A α} {s s' : σ} {a : α}
    (h : d.Ends w s a s') : d.Ends w' s a s' := by
  obtain ⟨exchanges, hlead, hfollows⟩ := h
  exact ⟨exchanges, hlead, hfollows.mono hw⟩

theorem Ends.ask {w : Surroundings A σ} {q : Q} {next : A q → Dialogue A α} {answer : A q}
    {s middle s' : σ} {a : α} (hstep : w q s answer middle)
    (h : (next answer).Ends w middle a s') : (Dialogue.ask q next).Ends w s a s' := by
  obtain ⟨exchanges, hlead, hfollows⟩ := h
  exact ⟨⟨q, answer⟩ :: exchanges, .ask answer hlead, middle, hstep, hfollows⟩

theorem Ends.bind {w : Surroundings A σ} {d : Dialogue A α} {f : α → Dialogue A β}
    {s middle s' : σ} {a : α} {b : β} (h : d.Ends w s a middle) (hf : (f a).Ends w middle b s') :
    (d.bind f).Ends w s b s' := by
  obtain ⟨first, hfirst, hfollows⟩ := h
  obtain ⟨second, hsecond, hfollows'⟩ := hf
  exact ⟨first ++ second, (leads_bind_append hfirst).mpr hsecond,
    w.follows_append.mpr ⟨middle, hfollows, hfollows'⟩⟩

/-- It can be held to its end, and every end is this one. -/
def SurelyEnds (w : Surroundings A σ) (d : Dialogue A α) (s : σ) (a : α) (s' : σ) : Prop :=
  d.Ends w s a s' ∧ ∀ b t, d.Ends w s b t → b = a ∧ t = s'

/-! ## Steady surroundings -/

section
variable {answers : (q : Q) → A q} {d : Dialogue A α} {a : α} {exchanges : List (Exchange A)}

theorem ends_steady : d.Ends (.steady answers) [] a exchanges ↔
    d.Leads exchanges (.done a) ∧ ∀ x ∈ exchanges, x.answer = answers x.question := by
  constructor
  · rintro ⟨others, hlead, hfollows⟩
    obtain ⟨rfl, hanswers⟩ := Surroundings.follows_steady.mp hfollows
    exact ⟨hlead, hanswers⟩
  · rintro ⟨hlead, hanswers⟩
    exact ⟨exchanges, hlead, Surroundings.follows_steady.mpr ⟨rfl, hanswers⟩⟩

/-- **Answers decide the course**: with each question answered in one way, there is one. -/
theorem exists_surelyEnds_steady (answers : (q : Q) → A q) (d : Dialogue A α) :
    ∃ exchanges a, d.SurelyEnds (.steady answers) [] a exchanges := by
  induction d with
  | done a =>
    refine ⟨[], a, ends_steady.mpr ⟨.here _, List.forall_mem_nil _⟩, fun b t hend => ?_⟩
    obtain ⟨rfl, rfl⟩ := leads_done.mp (ends_steady.mp hend).1
    exact ⟨rfl, rfl⟩
  | ask q next ih =>
    obtain ⟨exchanges, a, hend, hall⟩ := ih (answers q)
    obtain ⟨hlead, hanswers⟩ := ends_steady.mp hend
    refine ⟨⟨q, answers q⟩ :: exchanges, a, ends_steady.mpr ⟨.ask _ hlead, ?_⟩, ?_⟩
    · exact List.forall_mem_cons.mpr ⟨rfl, hanswers⟩
    · intro b t hother
      obtain ⟨hlead', hanswers'⟩ := ends_steady.mp hother
      rcases hlead' with _ | ⟨answer, hrest⟩
      obtain ⟨hanswer, hothers⟩ := List.forall_mem_cons.mp hanswers'
      obtain rfl : answer = answers q := hanswer
      obtain ⟨rfl, rfl⟩ := hall b _ (ends_steady.mpr ⟨hrest, hothers⟩)
      exact ⟨rfl, rfl⟩

/-- A course to the end with these answers is the one that there is. -/
theorem SurelyEnds.eq_of_leads {a' : α} {exchanges' : List (Exchange A)}
    (h : d.SurelyEnds (.steady answers) [] a exchanges) (hlead : d.Leads exchanges' (.done a'))
    (hanswers : ∀ x ∈ exchanges', x.answer = answers x.question) :
    a' = a ∧ exchanges' = exchanges :=
  h.2 _ _ (ends_steady.mpr ⟨hlead, hanswers⟩)

end

end Dialogue
end ShareAgent
