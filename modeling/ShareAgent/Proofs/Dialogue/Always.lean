import ShareAgent.Proofs.Dialogue.Transcript

/-! # What every course of a dialogue keeps

`d.Always w I goal s` says of the dialogue `d`, held with the surroundings `w` from the state `s`:
whatever they do, `I` holds after every single answer, and `goal` holds of the result and of the
state at the end.  It is defined by recursion on the dialogue, so it is proved by walking through
the program, one rule for each way to build a dialogue; `Always.holds` and `Always.ends` then turn
it into statements about transcripts.
-/
namespace ShareAgent.Dialogue

variable {Q : Type} {A : Q → Type} {α β ε σ : Type}
variable {w : Surroundings A σ} {I : σ → Prop} {s s' : σ}

/-- After every answer `I` holds, and at the end `goal` does. -/
def Always (w : Surroundings A σ) (I : σ → Prop) :
    Dialogue A α → (α → σ → Prop) → σ → Prop
  | .done a, goal, s => goal a s
  | .ask q next, goal, s => ∀ answer s', w q s answer s' → I s' ∧ (next answer).Always w I goal s'

theorem always_ask {q : Q} {next : A q → Dialogue A α} {goal : α → σ → Prop} :
    (ask q next).Always w I goal s ↔
      ∀ answer s', w q s answer s' → I s' ∧ (next answer).Always w I goal s' := .rfl

theorem always_put {q : Q} {goal : A q → σ → Prop} :
    (put q : Dialogue A (A q)).Always w I goal s ↔
      ∀ answer s', w q s answer s' → I s' ∧ goal answer s' := .rfl

theorem always_bind {d : Dialogue A α} {f : α → Dialogue A β} {goal : β → σ → Prop} :
    (d.bind f).Always w I goal s ↔ d.Always w I (fun a s' => (f a).Always w I goal s') s := by
  induction d generalizing s with
  | done a => rfl
  | ask q next ih => simp only [bind, always_ask, ih]

/-- Surroundings that do less keep more, and a weaker goal is reached where a stronger one is. -/
theorem Always.mono {w' : Surroundings A σ} {I' : σ → Prop} {goal goal' : α → σ → Prop}
    (hw : ∀ q s answer s', w' q s answer s' → w q s answer s') (hI : ∀ s, I s → I' s)
    (hgoal : ∀ a s, goal a s → goal' a s) {d : Dialogue A α} (h : d.Always w I goal s) :
    d.Always w' I' goal' s := by
  induction d generalizing s with
  | done a => exact hgoal a s h
  | ask q next ih =>
    intro answer s' hs'
    obtain ⟨hinv, hnext⟩ := h answer s' (hw q s answer s' hs')
    exact ⟨hI s' hinv, ih answer hnext⟩

theorem Always.imp {goal goal' : α → σ → Prop} {d : Dialogue A α} (h : d.Always w I goal s)
    (hgoal : ∀ a s, goal a s → goal' a s) : d.Always w I goal' s :=
  h.mono (fun _ _ _ _ hw => hw) (fun _ hI => hI) hgoal

theorem Always.and {goal goal' : α → σ → Prop} {d : Dialogue A α} (h : d.Always w I goal s)
    (h' : d.Always w I goal' s) : d.Always w I (fun a s => goal a s ∧ goal' a s) s := by
  induction d generalizing s with
  | done a => exact ⟨h, h'⟩
  | ask q next ih =>
    intro answer middle hstep
    obtain ⟨hinv, hnext⟩ := h answer middle hstep
    exact ⟨hinv, ih answer hnext (h' answer middle hstep).2⟩

/-- **The invariant holds after every answer**, also if the dialogue is never finished. -/
theorem Always.holds {d rest : Dialogue A α} {goal : α → σ → Prop}
    {exchanges : List (Exchange A)} (h : d.Always w I goal s) (hs : I s)
    (hlead : d.Leads exchanges rest) (hw : w.Follows s exchanges s') : I s' := by
  induction hlead generalizing s with
  | here => rw [Surroundings.follows_nil] at hw; exact hw ▸ hs
  | ask answer _ ih =>
    obtain ⟨middle, hstep, hrest⟩ := hw
    obtain ⟨hinv, hnext⟩ := h answer middle hstep
    exact ih hnext hinv hrest

/-- **The goal holds at the end.** -/
theorem Always.ends {d : Dialogue A α} {goal : α → σ → Prop} {a : α}
    {exchanges : List (Exchange A)} (h : d.Always w I goal s)
    (hlead : d.Leads exchanges (.done a)) (hw : w.Follows s exchanges s') : goal a s' := by
  -- Named first: the induction is on courses that need not reach the end.
  generalize hend : (Dialogue.done a : Dialogue A α) = rest at hlead
  induction hlead generalizing s with
  | here =>
    subst hend
    rw [Surroundings.follows_nil] at hw
    exact hw ▸ h
  | ask answer _ ih =>
    obtain ⟨middle, hstep, hrest⟩ := hw
    exact ih (h answer middle hstep).2 hrest hend

/-- What holds of every transcript, said of one that leads to the end. -/
theorem Always.of_recorder {d : Dialogue A α} {I : List (Exchange A) → Prop}
    {goal : α → List (Exchange A) → Prop} {a : α} {exchanges : List (Exchange A)}
    (h : d.Always Surroundings.recorder I goal []) (hlead : d.Leads exchanges (.done a)) :
    goal a exchanges :=
  h.ends hlead (Surroundings.follows_recorder [] exchanges)

/-- If every question can be answered, a dialogue can be held to its end. -/
theorem exists_ends (hw : ∀ q s, ∃ answer s', w q s answer s') (d : Dialogue A α) (s : σ) :
    ∃ a s', d.Ends w s a s' := by
  induction d generalizing s with
  | done a => exact ⟨a, s, [], .here _, rfl⟩
  | ask q next ih =>
    obtain ⟨answer, middle, hstep⟩ := hw q s
    obtain ⟨a, s', exchanges, hlead, hrest⟩ := ih answer middle
    exact ⟨a, s', ⟨q, answer⟩ :: exchanges, .ask answer hlead, middle, hstep, hrest⟩

/-- A goal that names one result and one state is reached surely, if every question can be
answered. -/
theorem Always.surelyEnds {d : Dialogue A α} {a : α} (hw : ∀ q s, ∃ answer s', w q s answer s')
    (h : d.Always w I (fun b t => b = a ∧ t = s') s) : d.SurelyEnds w s a s' := by
  have hall : ∀ b t, d.Ends w s b t → b = a ∧ t = s' :=
    fun b t ⟨_, hlead, hfollows⟩ => h.ends hlead hfollows
  obtain ⟨b, t, hend⟩ := exists_ends hw d s
  obtain ⟨rfl, rfl⟩ := hall b t hend
  exact ⟨hend, hall⟩

/-! ## Dialogues that can fail -/

/-- A failure skips the rest. -/
theorem always_run_bind {x : ExceptT ε (Dialogue A) α} {f : α → ExceptT ε (Dialogue A) β}
    {goal : Except ε β → σ → Prop} :
    (x >>= f).run.Always w I goal s ↔
      x.run.Always w I (fun
        | .ok a, s' => (f a).run.Always w I goal s'
        | .error e, s' => goal (.error e) s') s := by
  rw [ExceptT.run_bind, bind_eq, always_bind]
  refine iff_of_eq (congrArg (fun goal => x.run.Always w I goal s) ?_)
  funext r s'
  cases r <;> rfl

end ShareAgent.Dialogue
