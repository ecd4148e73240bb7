/-! # Dialogues

A dialogue is a computation that asks its surroundings questions. It is a finitely deep tree: a
node holds a question and goes on with the answer, a leaf holds the result. What the surroundings
do is no part of the tree, so a statement about a dialogue can quantify over every behaviour of the
surroundings, and after every single question. -/
namespace ShareAgent

/-- A computation with result `α` that asks questions `q`, each answered by an `A q`. -/
inductive Dialogue {Q : Type} (A : Q → Type) (α : Type) : Type
  | done (result : α)
  | ask (question : Q) (next : A question → Dialogue A α)

namespace Dialogue

variable {Q R : Type} {A : Q → Type} {B : R → Type} {α β γ σ : Type}

/-- Goes on with the result. -/
def bind : Dialogue A α → (α → Dialogue A β) → Dialogue A β
  | done a, f => f a
  | ask q next, f => ask q fun answer => (next answer).bind f

instance : Monad (Dialogue A) where
  pure := done
  bind := bind

/-- One question and its answer. -/
def put (q : Q) : Dialogue A (A q) := ask q done

/-- Holds a dialogue with surroundings whose state is a `σ`. -/
def run (answer : (q : Q) → σ → A q × σ) : Dialogue A α → σ → α × σ
  | done a, s => (a, s)
  | ask q next, s => (next (answer q s).1).run answer (answer q s).2

/-- Answers each question by a dialogue of its own. -/
def refine (answer : (q : Q) → Dialogue B (A q)) : Dialogue A α → Dialogue B α
  | done a => done a
  | ask q next => (answer q).bind fun reply => (next reply).refine answer

@[simp] theorem pure_eq (a : α) : (pure a : Dialogue A α) = done a := rfl

@[simp] theorem bind_eq (d : Dialogue A α) (f : α → Dialogue A β) : d >>= f = d.bind f := rfl

@[simp] theorem bind_done (d : Dialogue A α) : d.bind done = d := by
  induction d with
  | done a => rfl
  | ask q next ih => simp [bind, ih]

theorem bind_assoc (d : Dialogue A α) (f : α → Dialogue A β) (g : β → Dialogue A γ) :
    (d.bind f).bind g = d.bind fun a => (f a).bind g := by
  induction d with
  | done a => rfl
  | ask q next ih => simp [bind, ih]

instance : LawfulMonad (Dialogue A) :=
  .mk' (Dialogue A) (fun d => bind_done d) (fun _ _ => rfl) bind_assoc

theorem run_bind (answer : (q : Q) → σ → A q × σ) (d : Dialogue A α) (f : α → Dialogue A β)
    (s : σ) : (d.bind f).run answer s = (f (d.run answer s).1).run answer (d.run answer s).2 := by
  induction d generalizing s with
  | done a => rfl
  | ask q next ih => exact ih _ _

/-- Surroundings that hold a dialogue of their own for each answer. -/
theorem run_refine (inner : (q : Q) → Dialogue B (A q)) (answer : (r : R) → σ → B r × σ)
    (d : Dialogue A α) (s : σ) :
    (d.refine inner).run answer s = d.run (fun q s => (inner q).run answer s) s := by
  induction d generalizing s with
  | done a => rfl
  | ask q next ih => simp [refine, run, run_bind, ih]

end Dialogue
end ShareAgent
