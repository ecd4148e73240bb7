import ShareAgent.Proofs.Dialogue.Asks

/-! # Dialogues whose questions are passed on

`d.refine f` holds `d` and answers each question by a dialogue `f` of its own.  How the parts of `d`
are refined says how `d` is (`refine_bind`), only the questions that `d` can come to ask matter
(`Asks.refine_congr`), and surroundings that answer two sets of questions alike cannot tell the
dialogues apart (`run_map`).
-/
namespace ShareAgent.Dialogue

variable {Q R T : Type} {A : Q → Type} {B : R → Type} {C : T → Type} {α β ε σ τ : Type}

theorem refine_bind (f : (q : Q) → Dialogue B (A q)) (d : Dialogue A α) (next : α → Dialogue A β) :
    (d.bind next).refine f = (d.refine f).bind fun a => (next a).refine f := by
  induction d with
  | done a => rfl
  | ask q rest ih => simp only [bind, refine, bind_assoc, ih]

/-- What is passed on twice is passed on once, to the dialogue that passes it on. -/
theorem refine_refine (f : (q : Q) → Dialogue B (A q)) (g : (r : R) → Dialogue C (B r))
    (d : Dialogue A α) : (d.refine f).refine g = d.refine fun q => (f q).refine g := by
  induction d with
  | done a => rfl
  | ask q next ih => simp only [refine, refine_bind, ih]

/-- Only questions that can come up matter. -/
theorem Asks.refine_congr {p : Q → Prop} {f g : (q : Q) → Dialogue B (A q)} {d : Dialogue A α}
    (hd : d.Asks p) (hfg : ∀ q, p q → f q = g q) : d.refine f = d.refine g := by
  induction d with
  | done a => rfl
  | ask q next ih =>
    simp only [refine, hfg q hd.1]
    exact congrArg _ (funext fun answer => ih answer (hd.2 answer))

theorem refine_put (d : Dialogue A α) : d.refine put = d := by
  induction d with
  | done a => rfl
  | ask q next ih => simp only [refine, put, bind, ih]

/-- A single question is passed on to the dialogue that answers it. -/
theorem put_refine (f : (q : Q) → Dialogue B (A q)) (q : Q) : (put q).refine f = f q :=
  bind_done (f q)

/-- A dialogue that asks only what is passed on as it is stays what it is. -/
theorem Asks.refine_eq_self {p : Q → Prop} {f : (q : Q) → Dialogue A (A q)} {d : Dialogue A α}
    (hd : d.Asks p) (hf : ∀ q, p q → f q = put q) : d.refine f = d :=
  (hd.refine_congr hf).trans (refine_put d)

/-- What is passed on asks what the dialogues ask that it is passed on to. -/
theorem Asks.refine {p : Q → Prop} {p' : R → Prop} {f : (q : Q) → Dialogue B (A q)}
    {d : Dialogue A α} (hd : d.Asks p) (hf : ∀ q, p q → (f q).Asks p') : (d.refine f).Asks p' := by
  induction d with
  | done a => trivial
  | ask q next ih => exact (hf q hd.1).bind fun answer => ih answer (hd.2 answer)

/-- **What holds of all transcripts of the parts holds of those of the whole**, if it holds of two
transcripts one after the other where it holds of both. -/
theorem Asks.refine_leads {p : Q → Prop} {f : (q : Q) → Dialogue B (A q)}
    {good : List (Exchange B) → Prop} {d : Dialogue A α} {exchanges : List (Exchange B)}
    {rest : Dialogue B α} (hd : d.Asks p) (hnil : good [])
    (happend : ∀ first second, good first → good second → good (first ++ second))
    (hf : ∀ q, p q → ∀ exchanges rest, (f q).Leads exchanges rest → good exchanges)
    (h : (d.refine f).Leads exchanges rest) : good exchanges := by
  induction d generalizing exchanges with
  | done a =>
    cases h
    exact hnil
  | ask q next ih =>
    rcases h.bind_cases with ⟨middle, hq⟩ | ⟨first, second, a, rfl, hq, hrest⟩
    · exact hf q hd.1 _ _ hq
    · exact happend _ _ (hf q hd.1 _ _ hq) (ih a (hd.2 a) hrest)

/-- Two dialogues that can fail come to the same if their first parts do and, after every success,
what is left of them does. -/
theorem refine_run_bind_congr {f : (q : Q) → Dialogue B (A q)} {g : (q : Q) → Dialogue B (A q)}
    {x y : ExceptT ε (Dialogue A) α} {next other : α → ExceptT ε (Dialogue A) β}
    (hfirst : x.run.refine f = y.run.refine g)
    (hnext : ∀ a, (next a).run.refine f = (other a).run.refine g) :
    (x >>= next).run.refine f = (y >>= other).run.refine g := by
  rw [ExceptT.run_bind, ExceptT.run_bind, bind_eq, bind_eq, refine_bind, refine_bind, hfirst]
  refine congrArg _ (funext fun result => ?_)
  cases result with
  | ok a => exact hnext a
  | error e => rfl

/-- **What holds of a dialogue holds of its refinement**, if the dialogues that answer its questions
do what its surroundings `w` do.  `r t s` says that the surroundings of the refinement are in `t`
while those of the dialogue are in `s`. -/
theorem Always.refine {w : Surroundings A σ} {v : Surroundings B τ} {I : σ → Prop} {p : Q → Prop}
    {r : τ → σ → Prop} {f : (q : Q) → Dialogue B (A q)} {d : Dialogue A α} {goal : α → σ → Prop}
    {s : σ} {t : τ} (h : d.Always w I goal s) (hr : r t s) (hd : d.Asks p)
    (hf : ∀ q t s, p q → r t s → (f q).Always v (fun _ => True)
      (fun answer t' => ∃ s', w q s answer s' ∧ r t' s') t) :
    (d.refine f).Always v (fun _ => True) (fun a t' => ∃ s', goal a s' ∧ r t' s') t := by
  induction d generalizing s t with
  | done a => exact ⟨s, h, hr⟩
  | ask q next ih =>
    refine always_bind.mpr ((hf q t s hd.1 hr).imp ?_)
    rintro answer t' ⟨s', hstep, hr'⟩
    exact ih answer (h answer s' hstep).2 hr' (hd.2 answer)

/-- A failure skips the rest, also of what is passed on. -/
theorem always_refine_run_bind {w : Surroundings B σ} {I : σ → Prop} {s : σ}
    {f : (q : Q) → Dialogue B (A q)} {x : ExceptT ε (Dialogue A) α}
    {next : α → ExceptT ε (Dialogue A) β} {goal : Except ε β → σ → Prop} :
    ((x >>= next).run.refine f).Always w I goal s ↔
      (x.run.refine f).Always w I (fun
        | .ok a, s' => ((next a).run.refine f).Always w I goal s'
        | .error e, s' => goal (.error e) s') s := by
  rw [ExceptT.run_bind, bind_eq, refine_bind, always_bind]
  refine iff_of_eq (congrArg (fun goal => (x.run.refine f).Always w I goal s) ?_)
  funext r s'
  cases r <;> rfl

/-- Surroundings that answer alike, up to how their states are seen, hold the same dialogue. -/
theorem run_map {answer : (q : Q) → σ → A q × σ} {answer' : (q : Q) → τ → A q × τ} (view : σ → τ)
    (h : ∀ q s, answer' q (view s) = ((answer q s).1, view (answer q s).2)) (d : Dialogue A α)
    (s : σ) : d.run answer' (view s) = ((d.run answer s).1, view (d.run answer s).2) := by
  induction d generalizing s with
  | done a => rfl
  | ask q next ih => simp only [run, h, ih]

end ShareAgent.Dialogue
