import ShareAgent.Proofs.Command.Input
import ShareAgent.Proofs.Dialogue.Asks
import ShareAgent.Proofs.Text.Octets

/-! # What becomes of a child process

A runner that has started a child can end in five ways, and they are all courses of it (`Course`):
the child cannot be fed, a question about its end fails, its time is over, or it has ended, well or
not.  The child is left behind in one of them only, where the question fails: everywhere else its
end was seen or it is killed and waited for.  The clock decides nothing but the time-out.  It is
looked at only after a question that found the child running, so a child that has ended is never
late.
-/
namespace ShareAgent.Command
open Dialogue

/-- What the runner asked, and what it was told. -/
abbrev Transcript := List (Exchange ChildCall.Answer)

variable {c : Command} {deadline : Span} {exchanges : Transcript}
  {result : Except HostError Text}

/-! ## All courses -/

/-- Rounds to the end, with what they come to. -/
inductive Rounds (c : Command) (deadline : Span) : Transcript → Except HostError Text → Prop
  | ended (exit : Exit) (output complaint : Bytes) :
      Rounds c deadline [⟨.poll, .ok (some exit)⟩, ⟨.collect, (output, complaint)⟩]
        (c.verdict exit (readText output) (readText complaint))
  | failed (e : SystemError) : Rounds c deadline [⟨.poll, .error e⟩] (.error (.system e))
  | overdue (now : Span) (hnow : deadline.nanoseconds ≤ now.nanoseconds) :
      Rounds c deadline [⟨.poll, .ok none⟩, ⟨.now, now⟩, ⟨.kill, ()⟩, ⟨.wait, ()⟩]
        (.error (.commandTimeout c.line c.timeout))
  | later {exchanges : Transcript} {result : Except HostError Text} (now : Span)
      (hnow : now.nanoseconds < deadline.nanoseconds) (hrest : Rounds c deadline exchanges result) :
      Rounds c deadline (⟨.poll, .ok none⟩ :: ⟨.now, now⟩ :: ⟨.pause, ()⟩ :: exchanges) result

/-- The child gets its input, if there is any. -/
inductive Fed : Option Text → Transcript → Prop
  | nothing : Fed none []
  | input (input : Text) : Fed (some input) [⟨.feed input, .ok ()⟩]

/-- All that can happen to a runner, with what it comes to. -/
inductive Course (c : Command) : Transcript → Except HostError Text → Prop
  | notStarted (e : SystemError) :
      Course c [⟨.start c.program c.arguments c.input.isSome, .error e⟩]
        (.error (.unexpected ("Failed to execute " ++ c.line ++ ": " ++ e.message)))
  | notFed (input : Text) (hinput : c.input = some input) (e : SystemError) :
      Course c [⟨.start c.program c.arguments c.input.isSome, .ok ()⟩, ⟨.feed input, .error e⟩,
        ⟨.kill, ()⟩, ⟨.wait, ()⟩] (.error (.system e))
  | ran {fed exchanges : Transcript} {result : Except HostError Text} (hfed : Fed c.input fed)
      (begun : Span)
      (hrounds : Rounds c ⟨begun.nanoseconds + c.timeout.nanoseconds⟩ exchanges result) :
      Course c (⟨.start c.program c.arguments c.input.isSome, .ok ()⟩ ::
        (fed ++ ⟨.now, begun⟩ :: exchanges)) result

theorem rounds_of_leads {n : Nat}
    (h : (c.rounds deadline n).Leads exchanges (.done (some result))) :
    Rounds c deadline exchanges result := by
  induction n generalizing exchanges with
  | zero => cases h
  | succ n ih =>
    rw [rounds, round, Dialogue.bind] at h
    obtain _ | ⟨(e | _ | exit), h⟩ := h
    · obtain ⟨rfl, hresult⟩ := leads_done.mp h
      obtain rfl := Option.some.inj hresult
      exact .failed e
    · obtain _ | ⟨now, h⟩ := h
      dsimp only at h
      split at h
      · next hnow =>
        obtain _ | ⟨⟨⟩, _ | ⟨⟨⟩, h⟩⟩ := h
        obtain ⟨rfl, hresult⟩ := leads_done.mp h
        obtain rfl := Option.some.inj hresult
        exact .overdue now hnow
      · next hnow =>
        obtain _ | ⟨⟨⟩, h⟩ := h
        exact .later now (Nat.lt_of_not_le hnow) (ih h)
    · obtain _ | ⟨⟨output, complaint⟩, h⟩ := h
      obtain ⟨rfl, hresult⟩ := leads_done.mp h
      obtain rfl := Option.some.inj hresult
      exact .ended exit output complaint

theorem leads_of_rounds (h : Rounds c deadline exchanges result) :
    ∃ n, (c.rounds deadline n).Leads exchanges (.done (some result)) := by
  induction h with
  | ended exit output complaint => exact ⟨1, .ask _ (.ask _ (.here _))⟩
  | failed e => exact ⟨1, .ask _ (.here _)⟩
  | overdue now hnow =>
    refine ⟨1, .ask _ (.ask _ ?_)⟩
    dsimp only
    rw [if_pos hnow]
    exact .ask _ (.ask _ (.here _))
  | later now hnow _ ih =>
    obtain ⟨n, hn⟩ := ih
    refine ⟨n + 1, .ask _ (.ask _ ?_)⟩
    dsimp only
    rw [if_neg (Nat.not_le_of_lt hnow)]
    exact .ask _ hn

theorem course_of_leads {n : Nat}
    (h : (c.runWithin n).Leads exchanges (.done (some result))) : Course c exchanges result := by
  rw [runWithin, launch, Dialogue.bind] at h
  obtain _ | ⟨(e | ⟨⟩), h⟩ := h
  · obtain ⟨rfl, hresult⟩ := leads_done.mp h
    obtain rfl := Option.some.inj hresult
    exact .notStarted e
  · dsimp only at h
    cases hinput : c.input with
    | none =>
      rw [hinput] at h
      obtain _ | ⟨begun, h⟩ := h
      have hfed : Fed c.input [] := hinput ▸ Fed.nothing
      have hran := Course.ran hfed begun (rounds_of_leads h)
      rwa [hinput] at hran
    | some input =>
      rw [hinput] at h
      obtain _ | ⟨(e | ⟨⟩), h⟩ := h
      · obtain _ | ⟨⟨⟩, _ | ⟨⟨⟩, h⟩⟩ := h
        obtain ⟨rfl, hresult⟩ := leads_done.mp h
        obtain rfl := Option.some.inj hresult
        have hfailed := Course.notFed input hinput e
        rwa [hinput] at hfailed
      · obtain _ | ⟨begun, h⟩ := h
        have hfed : Fed c.input [⟨.feed input, .ok ()⟩] := hinput ▸ Fed.input input
        have hran := Course.ran hfed begun (rounds_of_leads h)
        rwa [hinput] at hran

theorem leads_of_course (h : Course c exchanges result) :
    ∃ n, (c.runWithin n).Leads exchanges (.done (some result)) := by
  cases h with
  | notStarted e => exact ⟨0, .ask _ (.here _)⟩
  | notFed input hinput e =>
    refine ⟨0, .ask _ ?_⟩
    dsimp only
    rw [hinput]
    exact .ask _ (.ask _ (.ask _ (.here _)))
  | @ran fed _ _ hfed begun hrounds =>
    obtain ⟨n, hn⟩ := leads_of_rounds hrounds
    refine ⟨n, .ask _ ?_⟩
    dsimp only
    cases hinput : c.input with
    | none =>
      rw [hinput] at hfed
      cases hfed
      exact .ask _ hn
    | some input =>
      rw [hinput] at hfed
      cases hfed
      exact .ask _ (.ask _ hn)

/-- **These are all courses, and each of them happens.** -/
theorem course_iff : (∃ n, (c.runWithin n).Leads exchanges (.done (some result))) ↔
    Course c exchanges result :=
  ⟨fun ⟨_, h⟩ => course_of_leads h, leads_of_course⟩

/-! ## What a course tells -/

/-- The end of the child was seen, or it was killed and then waited for. -/
def Collected (exchanges : Transcript) : Prop :=
  (∃ exit, ⟨.poll, .ok (some exit)⟩ ∈ exchanges) ∨
    [⟨.kill, ()⟩, ⟨.wait, ()⟩].Sublist exchanges

/-- The child was found running, and then the deadline over. -/
def Overdue (deadline : Span) (exchanges : Transcript) : Prop :=
  ∃ now : Span, deadline.nanoseconds ≤ now.nanoseconds ∧
    [⟨.poll, .ok none⟩, ⟨.now, now⟩] <:+: exchanges

/-- What the questions about a child come to. -/
structure Supervised (c : Command) (deadline : Span) (exchanges : Transcript)
    (result : Except HostError Text) : Prop where
  /-- There is at least one. -/
  polled : ∃ answer, ⟨.poll, answer⟩ ∈ exchanges
  /-- The child is left behind exactly if one of them fails. -/
  collected : Collected exchanges ↔ ∀ e, ⟨.poll, .error e⟩ ∉ exchanges
  failed : ∀ e, ⟨.poll, .error e⟩ ∈ exchanges → result = .error (.system e)
  timeout : result = .error (.commandTimeout c.line c.timeout) ↔ Overdue deadline exchanges
  verdict : ∀ exit, ⟨.poll, .ok (some exit)⟩ ∈ exchanges → ∃ output complaint,
    ⟨.collect, (output, complaint)⟩ ∈ exchanges ∧
      result = c.verdict exit (readText output) (readText complaint)

section Beside

variable {x : Exchange ChildCall.Answer}

theorem mem_cons_of_question {q : ChildCall} {answer : q.Answer} (hx : x.question ≠ q) :
    ⟨q, answer⟩ ∈ x :: exchanges ↔ ⟨q, answer⟩ ∈ exchanges := by
  rw [List.mem_cons, or_iff_right]
  rintro rfl
  exact hx rfl

theorem collected_cons (hpoll : ∀ exit, x ≠ ⟨.poll, .ok (some exit)⟩) (hkill : x.question ≠ .kill) :
    Collected (x :: exchanges) ↔ Collected exchanges := by
  have hsublist : [⟨.kill, ()⟩, ⟨.wait, ()⟩].Sublist (x :: exchanges) ↔
      [⟨.kill, ()⟩, ⟨.wait, ()⟩].Sublist exchanges := by
    refine ⟨fun h => ?_, fun h => h.cons x⟩
    cases h with
    | cons _ h => exact h
    | cons_cons => exact (hkill rfl).elim
  rw [Collected, Collected, hsublist]
  simp [fun exit => (hpoll exit).symm]

theorem overdue_cons (hpoll : x ≠ ⟨.poll, .ok none⟩) :
    Overdue deadline (x :: exchanges) ↔ Overdue deadline exchanges := by
  simp [Overdue, List.infix_cons_iff, hpoll.symm]

/-- Other questions make no difference. -/
theorem Supervised.cons (h : Supervised c deadline exchanges result) (hpoll : x.question ≠ .poll)
    (hkill : x.question ≠ .kill) : Supervised c deadline (x :: exchanges) result := by
  obtain ⟨⟨answer, hpolled⟩, hcollected, hfailed, htimeout, hverdict⟩ := h
  have hne : ∀ answer, x ≠ ⟨.poll, answer⟩ := by
    rintro answer rfl
    exact hpoll rfl
  refine ⟨⟨answer, .tail _ hpolled⟩, ?_, ?_, ?_, ?_⟩
  · simpa only [collected_cons (fun _ => hne _) hkill, mem_cons_of_question hpoll] using hcollected
  · simpa only [mem_cons_of_question hpoll] using hfailed
  · rwa [overdue_cons (hne _)]
  · intro exit hexit
    have hexit := (mem_cons_of_question hpoll).mp hexit
    obtain ⟨output, complaint, hmem, hresult⟩ := hverdict exit hexit
    exact ⟨output, complaint, .tail _ hmem, hresult⟩

end Beside

/-- A child that still runs before the deadline makes no difference either. -/
theorem Supervised.later {now : Span} (h : Supervised c deadline exchanges result)
    (hnow : now.nanoseconds < deadline.nanoseconds) :
    Supervised c deadline (⟨.poll, .ok none⟩ :: ⟨.now, now⟩ :: exchanges) result := by
  have hnext : Supervised c deadline (⟨.now, now⟩ :: exchanges) result := h.cons (by simp) (by simp)
  obtain ⟨-, hcollected, hfailed, htimeout, hverdict⟩ := hnext
  refine ⟨⟨_, .head _⟩, ?_, ?_, ?_, ?_⟩
  · refine (collected_cons (by simp) (by simp)).trans ?_
    simpa using hcollected
  · simpa using hfailed
  · refine htimeout.trans ⟨?_, ?_⟩
    · rintro ⟨t, ht, hinfix⟩
      exact ⟨t, ht, List.infix_cons hinfix⟩
    · rintro ⟨t, ht, hinfix⟩
      obtain hprefix | hinfix := List.infix_cons_iff.mp hinfix
      · have heq : t = now := by simpa using hprefix
        exact absurd ht (Nat.not_le_of_lt (heq ▸ hnow))
      · exact ⟨t, ht, hinfix⟩
  · simpa using hverdict

theorem verdict_ne_timeout (exit : Exit) (output complaint : Text) :
    c.verdict exit output complaint ≠ .error (.commandTimeout c.line c.timeout) := by
  rw [verdict]
  split <;> simp

theorem supervised_of_rounds (h : Rounds c deadline exchanges result) :
    Supervised c deadline exchanges result := by
  induction h with
  | ended exit output complaint =>
    refine ⟨⟨_, .head _⟩, ?_, ?_, ?_, ?_⟩
    · simp [Collected]
    · simp
    · simp [Overdue, verdict_ne_timeout, List.infix_cons_iff]
    · intro other hother
      obtain rfl : other = exit := by simpa using hother
      exact ⟨output, complaint, .tail _ (.head _), rfl⟩
  | failed e =>
    refine ⟨⟨_, .head _⟩, ?_, ?_, ?_, ?_⟩
    · refine (collected_cons (by simp) (by simp)).trans ?_
      simp [Collected]
    · simp
    · simp [Overdue, List.infix_cons_iff]
    · simp
  | overdue now hnow =>
    refine ⟨⟨_, .head _⟩, ?_, ?_, ?_, ?_⟩
    · simp [Collected]
    · simp
    · simp [Overdue, hnow, List.infix_cons_iff]
    · simp
  | later now hnow _ ih =>
    have hpause : Supervised c deadline (⟨.pause, ()⟩ :: _) _ := ih.cons (by simp) (by simp)
    exact hpause.later hnow

/-- What a stream of the child is read as is all of it exactly if it is text. -/
theorem encode_readText_iff (octets : Bytes) :
    Utf8.encode (readText octets) = octets ↔ Utf8.IsText octets := by
  refine ⟨fun h => ⟨_, h.symm⟩, ?_⟩
  rintro ⟨t, rfl⟩
  rw [readText, Utf8.decode?_encode]
  rfl

/-- The time that is told, if this is a look at the clock. -/
def reading? : Exchange ChildCall.Answer → Option Span
  | ⟨.now, time⟩ => some time
  | _ => none

/-- The child still ran, and then the time was over that it had from the first look at the clock. -/
def TimedOut (c : Command) (exchanges : Transcript) : Prop :=
  ∃ begun, exchanges.findSome? reading? = some begun ∧
    Overdue ⟨begun.nanoseconds + c.timeout.nanoseconds⟩ exchanges

/-- A child that got its input is asked for its end, and not fed again. -/
theorem supervised_of_fed {fed rounds : Transcript} {begun : Span} (hfed : Fed c.input fed)
    (hrounds : Rounds c ⟨begun.nanoseconds + c.timeout.nanoseconds⟩ rounds result) :
    (fed ++ ⟨.now, begun⟩ :: rounds).findSome? reading? = some begun ∧
    Supervised c ⟨begun.nanoseconds + c.timeout.nanoseconds⟩ (fed ++ ⟨.now, begun⟩ :: rounds)
      result ∧
    ∀ input e, ⟨.feed input, .error e⟩ ∉ fed ++ ⟨.now, begun⟩ :: rounds := by
  have hbegun : Supervised c _ (⟨.now, begun⟩ :: rounds) result :=
    (supervised_of_rounds hrounds).cons (by simp) (by simp)
  have hunfed : ∀ input e, ⟨.feed input, .error e⟩ ∉ rounds := by
    obtain ⟨n, hn⟩ := leads_of_rounds hrounds
    exact fun input e hmem => (rounds_asks n).of_leads hn _ hmem input rfl
  generalize c.input = input at hfed
  cases hfed with
  | nothing => exact ⟨rfl, hbegun, by simpa using hunfed⟩
  | input text => exact ⟨rfl, hbegun.cons (by simp) (by simp), by simpa using hunfed⟩

/-- **A runner leaves its child behind only if it cannot learn whether that has ended.**  In every
other course the end of the child was seen or it was killed and waited for.  The command times out
exactly if the child was found running and then its time over, after at least one question in any
case; otherwise the end of the child decides, whenever it is seen. -/
theorem child_supervised {n : Nat}
    (h : (c.runWithin n).Leads exchanges (.done (some result)))
    (hstart : ⟨.start c.program c.arguments c.input.isSome, .ok ()⟩ ∈ exchanges) :
    (Collected exchanges ↔ ∀ e, ⟨.poll, .error e⟩ ∉ exchanges) ∧
    (result = .error (.commandTimeout c.line c.timeout) ↔ TimedOut c exchanges) ∧
    ((∃ answer, ⟨.poll, answer⟩ ∈ exchanges) ↔ ∀ input e, ⟨.feed input, .error e⟩ ∉ exchanges) ∧
    (∀ e, (⟨.poll, .error e⟩ ∈ exchanges ∨ ∃ input, ⟨.feed input, .error e⟩ ∈ exchanges) →
      result = .error (.system e)) ∧
    ∀ exit, ⟨.poll, .ok (some exit)⟩ ∈ exchanges → ∃ output complaint,
      ⟨.collect, (output, complaint)⟩ ∈ exchanges ∧
      result = (if exit.isSuccess then .ok (readText output)
        else .error (.commandFailed c.line exit.code? (Text.trim (readText complaint)))) ∧
      (Utf8.encode (readText output) = output ↔ Utf8.IsText output) ∧
      (Utf8.encode (readText complaint) = complaint ↔ Utf8.IsText complaint) := by
  have hcourse := course_of_leads h
  cases hcourse with
  | notStarted e => simp at hstart
  | notFed input hinput e =>
    refine ⟨?_, ?_, ?_, ?_, ?_⟩
    · simp [Collected]
    · refine iff_of_false (by simp) ?_
      rintro ⟨begun, hclock, -⟩
      cases hclock
    · simp
    · simp
    · simp
  | @ran fed rounds _ hfed begun hrounds =>
    obtain ⟨hclock, hfedSupervised, hunfed⟩ := supervised_of_fed hfed hrounds
    have hsupervised : Supervised c _ (⟨.start c.program c.arguments c.input.isSome, .ok ()⟩ ::
        (fed ++ ⟨.now, begun⟩ :: rounds)) result := hfedSupervised.cons (by simp) (by simp)
    obtain ⟨hpolled, hcollected, hfailed, htimeout, hverdict⟩ := hsupervised
    have hunfed : ∀ input e, ⟨.feed input, .error e⟩ ∉
        ⟨.start c.program c.arguments c.input.isSome, .ok ()⟩ ::
          (fed ++ ⟨.now, begun⟩ :: rounds) := fun input e hmem =>
      hunfed input e ((mem_cons_of_question (by simp)).mp hmem)
    refine ⟨hcollected, htimeout.trans ⟨fun hover => ⟨begun, hclock, hover⟩, ?_⟩,
      iff_of_true hpolled hunfed, ?_, ?_⟩
    · rintro ⟨other, hother, hover⟩
      obtain rfl : begun = other := Option.some.inj (hclock.symm.trans hother)
      exact hover
    · rintro e (hpoll | ⟨input, hfeed⟩)
      · exact hfailed e hpoll
      · exact (hunfed input e hfeed).elim
    · intro exit hexit
      obtain ⟨output, complaint, hmem, hresult⟩ := hverdict exit hexit
      exact ⟨output, complaint, hmem, hresult, encode_readText_iff _, encode_readText_iff _⟩

/-- A command with an input and no time at all. -/
def hurried : Command := ⟨"cat", [], some "a", ⟨0⟩⟩

/-- It is asked for once, and then killed. -/
def hurriedCourse : Transcript :=
  [⟨.start "cat" [] true, .ok ()⟩, ⟨.feed "a", .ok ()⟩, ⟨.now, ⟨7⟩⟩, ⟨.poll, .ok none⟩,
    ⟨.now, ⟨7⟩⟩, ⟨.kill, ()⟩, ⟨.wait, ()⟩]

theorem child_supervised_hurried :
    ∃ n, (hurried.runWithin n).Leads hurriedCourse
        (.done (some (.error (.commandTimeout hurried.line hurried.timeout)))) ∧
      Collected hurriedCourse ∧ TimedOut hurried hurriedCourse := by
  have hrounds : Rounds hurried ⟨7⟩ (hurriedCourse.drop 3)
      (.error (.commandTimeout hurried.line hurried.timeout)) := .overdue ⟨7⟩ (Nat.le_refl 7)
  have hcourse : Course hurried hurriedCourse
      (.error (.commandTimeout hurried.line hurried.timeout)) :=
    .ran (c := hurried) (.input "a") ⟨7⟩ hrounds
  obtain ⟨n, hn⟩ := leads_of_course hcourse
  obtain ⟨hcollected, htimeout, -⟩ := child_supervised hn (.head _)
  refine ⟨n, hn, hcollected.mpr ?_, htimeout.mp rfl⟩
  simp [hurriedCourse]

/-- A command that the system cannot tell the end of, or that writes more than text. -/
def untold : Command := ⟨"true", [], none, .ofSeconds 10⟩

/-- **A child can be left behind, and its output lost**: nothing is done about a child after a
question that fails, and of an output that is not text as a whole nothing is kept. -/
theorem child_left_behind :
    (untold.runWithin 1).Leads [⟨.start "true" [] false, .ok ()⟩, ⟨.now, ⟨0⟩⟩,
        ⟨.poll, .error (.code 10)⟩] (.done (some (.error (.system (.code 10))))) ∧
    ¬ Collected [⟨.start "true" [] false, .ok ()⟩, ⟨.now, ⟨0⟩⟩, ⟨.poll, .error (.code 10)⟩] ∧
    (untold.runWithin 1).Leads [⟨.start "true" [] false, .ok ()⟩, ⟨.now, ⟨0⟩⟩,
        ⟨.poll, .ok (some (.code 0))⟩, ⟨.collect, ([0x6F, 0x6B, 0x0A, 0xFF], [])⟩]
      (.done (some (.ok []))) := by
  refine ⟨.ask _ (.ask _ (.ask _ (.here _))), ?_, .ask _ (.ask _ (.ask _ (.ask _ (.here _))))⟩
  simp [Collected, List.sublist_cons_iff]

end ShareAgent.Command
