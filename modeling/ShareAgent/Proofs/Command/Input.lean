import ShareAgent.Command.Runner
import ShareAgent.Proofs.Dialogue.Refine

/-! # What a command is given to read

The runner writes the input of a command to the child process and nowhere else: it feeds a child
that input or nothing (`runWithin_asks`), and a command with another input is run by the same calls,
with the same results and messages, but for the text that is fed (`runWithin_refeed`).
-/
namespace ShareAgent.Command
open Dialogue

variable {c : Command} {input input' : Text}

/-- Passes a call on, but feeds the child this text. -/
def ChildCall.refeed (input : Text) : (call : ChildCall) → WithChild call.Answer
  | .feed _ => .put (ChildCall.feed input)
  | call => .put call

/-- The command with this to read. -/
def reading (c : Command) (input : Text) : Command := { c with input := some input }

/-! ## What a child is fed -/

theorem abandon_asks {p : ChildCall → Prop} {α : Type} {result : α} (hkill : p .kill)
    (hwait : p .wait) : (abandon result).Asks p :=
  ⟨hkill, fun _ => ⟨hwait, fun _ => trivial⟩⟩

theorem round_asks {deadline : Span} :
    (c.round deadline).Asks fun call => ∀ fed, call ≠ .feed fed := by
  refine ⟨nofun, ?_⟩
  rintro (e | _ | exit)
  · trivial
  · refine ⟨nofun, fun now => ?_⟩
    dsimp only
    split
    · exact abandon_asks nofun nofun
    · exact ⟨nofun, fun _ => trivial⟩
  · exact ⟨nofun, fun _ => trivial⟩

theorem rounds_asks {deadline : Span} (n : Nat) :
    (c.rounds deadline n).Asks fun call => ∀ fed, call ≠ .feed fed := by
  induction n with
  | zero => trivial
  | succ n ih =>
    refine round_asks.bind ?_
    rintro (_ | result)
    · exact ih
    · trivial

/-- **A child is fed the input of its command, or nothing.** -/
theorem runWithin_asks (n : Nat) :
    (c.runWithin n).Asks fun call => ∀ fed, call = .feed fed → c.input = some fed := by
  have hrounds : ∀ deadline, (c.rounds deadline n).Asks fun call =>
      ∀ fed, call = .feed fed → c.input = some fed := fun _ =>
    (rounds_asks n).mono fun _ hcall fed hfed => (hcall fed hfed).elim
  refine Asks.bind ⟨nofun, ?_⟩ ?_
  · rintro (e | ⟨⟩)
    · trivial
    · dsimp only
      cases hinput : c.input with
      | none => exact ⟨nofun, fun _ => trivial⟩
      | some input =>
        refine ⟨fun fed hfed => by cases hfed; rfl, ?_⟩
        rintro (e | ⟨⟩)
        · exact abandon_asks nofun nofun
        · exact ⟨nofun, fun _ => trivial⟩
  · rintro (e | deadline)
    · trivial
    · exact hrounds deadline

/-! ## Two inputs -/

theorem ChildCall.refeed_of_ne {call : ChildCall} (h : ∀ fed, call ≠ .feed fed) :
    call.refeed input = .put call := by
  cases call with
  | feed fed => exact (h fed rfl).elim
  | _ => rfl

theorem rounds_reading {deadline : Span} (n : Nat) :
    (c.reading input).rounds deadline n = c.rounds deadline n := by
  induction n with
  | zero => rfl
  | succ n ih =>
    simp only [rounds, ih]
    rfl

theorem launch_refeed :
    (c.reading input).launch.refine (ChildCall.refeed input') = (c.reading input').launch := by
  refine congrArg (ask _) (funext ?_)
  rintro (e | ⟨⟩)
  · rfl
  · refine congrArg (ask _) (funext ?_)
    rintro (e | ⟨⟩) <;> rfl

/-- **A command with another input is run in the same way**, but for what its child is fed. -/
theorem runWithin_refeed (n : Nat) :
    ((c.reading input).runWithin n).refine (ChildCall.refeed input') =
      (c.reading input').runWithin n := by
  rw [runWithin, runWithin, refine_bind, launch_refeed]
  refine congrArg _ (funext fun result => ?_)
  cases result with
  | error e => rfl
  | ok deadline =>
    show ((c.reading input).rounds deadline n).refine _ = (c.reading input').rounds deadline n
    rw [rounds_reading, rounds_reading]
    exact (rounds_asks n).refine_eq_self fun _ => ChildCall.refeed_of_ne

end ShareAgent.Command
