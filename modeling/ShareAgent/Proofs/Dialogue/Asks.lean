import ShareAgent.Proofs.Dialogue.Always

/-! # Which questions a dialogue can ask

`d.Asks p` says that every question that `d` can come to ask, whatever the answers before it were,
satisfies `p`.  Dialogues that ask only questions which leave the surroundings alone leave them
alone altogether (`Asks.always_unchanged`).
-/
namespace ShareAgent.Dialogue

variable {Q : Type} {A : Q → Type} {α β ε σ τ : Type} {p : Q → Prop}

/-- All questions that can come up satisfy `p`. -/
def Asks (p : Q → Prop) : Dialogue A α → Prop
  | .done _ => True
  | .ask q next => p q ∧ ∀ answer, (next answer).Asks p

theorem asks_put {q : Q} (hq : p q) : (put q : Dialogue A (A q)).Asks p :=
  ⟨hq, fun _ => trivial⟩

theorem Asks.mono {p' : Q → Prop} {d : Dialogue A α} (hd : d.Asks p) (hp : ∀ q, p q → p' q) :
    d.Asks p' := by
  induction d with
  | done a => trivial
  | ask q next ih => exact ⟨hp q hd.1, fun answer => ih answer (hd.2 answer)⟩

theorem Asks.bind {d : Dialogue A α} {f : α → Dialogue A β} (hd : d.Asks p)
    (hf : ∀ a, (f a).Asks p) : (d.bind f).Asks p := by
  induction d with
  | done a => exact hf a
  | ask q next ih => exact ⟨hd.1, fun answer => ih answer (hd.2 answer)⟩

theorem Asks.run_bind {x : ExceptT ε (Dialogue A) α} {f : α → ExceptT ε (Dialogue A) β}
    (hx : x.run.Asks p) (hf : ∀ a, (f a).run.Asks p) : (x >>= f).run.Asks p := by
  rw [ExceptT.run_bind]
  refine Asks.bind hx fun r => ?_
  cases r with
  | ok a => exact hf a
  | error e => trivial

/-- What has been asked are questions that can come up. -/
theorem Asks.of_leads {d rest : Dialogue A α} {exchanges : List (Exchange A)} (hd : d.Asks p)
    (hlead : d.Leads exchanges rest) : ∀ x ∈ exchanges, p x.question := by
  induction hlead with
  | here => exact List.forall_mem_nil _
  | ask answer _ ih => exact List.forall_mem_cons.mpr ⟨hd.1, ih (hd.2 answer)⟩

/-- What is left can ask no other questions. -/
theorem Asks.rest {d rest : Dialogue A α} {exchanges : List (Exchange A)} (hd : d.Asks p)
    (hlead : d.Leads exchanges rest) : rest.Asks p := by
  induction hlead with
  | here => exact hd
  | ask answer _ ih => exact ih (hd.2 answer)

/-- **Questions that each keep a relation keep it together.** -/
theorem Asks.always_related {w : Surroundings A σ} {r : σ → σ → Prop} (hrefl : ∀ s, r s s)
    (htrans : ∀ s t u, r s t → r t u → r s u) {d : Dialogue A α} {s : σ} (hd : d.Asks p)
    (hw : ∀ q s answer s', p q → w q s answer s' → r s s') :
    d.Always w (r s) (fun _ s' => r s s') s := by
  induction d generalizing s with
  | done a => exact hrefl s
  | ask q next ih =>
    intro answer s' hstep
    have hs : r s s' := hw q s answer s' hd.1 hstep
    exact ⟨hs, (ih answer (hd.2 answer)).mono (fun _ _ _ _ hw => hw)
      (fun u => htrans s s' u hs) fun _ u => htrans s s' u hs⟩

/-- **Questions that change nothing change nothing together.** -/
theorem Asks.always_unchanged {w : Surroundings A σ} {d : Dialogue A α} {s : σ} (hd : d.Asks p)
    (hw : ∀ q s answer s', p q → w q s answer s' → s' = s) :
    d.Always w (· = s) (fun _ s' => s' = s) s :=
  hd.always_related (r := fun s s' => s' = s) (fun _ => rfl) (fun _ _ _ hst htu => htu.trans hst) hw

/-- Surroundings of which only a part is seen keep what that part keeps, as far as the questions go
that can come up. -/
theorem Asks.always_view {w : Surroundings A σ} {v : Surroundings A τ} {view : τ → σ}
    {I : σ → Prop} {goal : α → σ → Prop} {d : Dialogue A α} {t : τ} (hd : d.Asks p)
    (hv : ∀ q t answer t', p q → v q t answer t' → w q (view t) answer (view t'))
    (h : d.Always w I goal (view t)) :
    d.Always v (fun t' => I (view t')) (fun a t' => goal a (view t')) t := by
  induction d generalizing t with
  | done a => exact h
  | ask q next ih =>
    intro answer t' hstep
    obtain ⟨hinv, hnext⟩ := h answer (view t') (hv q t answer t' hd.1 hstep)
    exact ⟨hinv, ih answer (hd.2 answer) hnext⟩

/-- What is added to a transcript are questions that can come up. -/
theorem Asks.always_recorder {d : Dialogue A α} (hd : d.Asks p) (past : List (Exchange A)) :
    d.Always Surroundings.recorder (fun _ => True)
      (fun _ now => ∃ new, now = past ++ new ∧ ∀ x ∈ new, p x.question) past := by
  induction d generalizing past with
  | done a => exact ⟨[], (List.append_nil past).symm, nofun⟩
  | ask q next ih =>
    rintro answer _ rfl
    refine ⟨trivial, (ih answer (hd.2 answer) _).imp ?_⟩
    rintro _ _ ⟨new, rfl, hnew⟩
    refine ⟨⟨q, answer⟩ :: new, by simp, ?_⟩
    exact List.forall_mem_cons.mpr ⟨hd.1, hnew⟩

end ShareAgent.Dialogue
