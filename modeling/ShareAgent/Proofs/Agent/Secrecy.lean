import ShareAgent.Proofs.Agent.Tools
import ShareAgent.Proofs.Dialogue.Refine
import ShareAgent.Proofs.Share.Calls

/-! # Where a passphrase goes

An agent whose volume has a passphrase hands it to one command, the `cryptsetup` that grows the
mapping of the volume, and to nothing else.  This is a statement about two runs: whatever is
requested, with one passphrase an agent behaves as with any other, up to what that command is given
to read (`passphrase_feeds_one_command`).

The reason is an equation between programs.  Let `supply` pass every call on as it is, but give a
command the passphrase to read if it grows the mapping, and nothing otherwise.  Then the program of
an agent with one passphrase, passed on by `supply` with another, is the program of the agent with
the other one (`session_keyed`).  It holds step by step: a step that does not grow the mapping is
the same with every passphrase and asks only calls that `supply` leaves as they are.
-/
namespace ShareAgent
open Dialogue

/-! ## Sessions -/

/-- A request for an operation, by a caller in the same process or by a remote one. -/
inductive Request
  | direct (op : Operation)
  | remote (op : Operation)

/-- What the caller learns. -/
inductive Reply
  | direct (result : Except ShareError Unit)
  | remote (result : Except Status Unit)

namespace Share

/-- Answers a request on the host that the agent runs on. -/
def respond (s : Share) (state : ShareState) : Request → OnKernel (Reply × ShareState)
  | .direct op =>
    (s.performOnKernel op state).bind fun (result, state) => .done (.direct result, state)
  | .remote op =>
    ((s.serve op state).refine (HostCall.perform s.settings)).bind fun (result, state) =>
      .done (.remote result, state)

/-- Answers requests one after the other: what the callers learn, and the state after each. -/
def session (s : Share) (state : ShareState) : List Request → OnKernel (List (Reply × ShareState))
  | [] => .done []
  | request :: rest => (s.respond state request).bind fun (reply, state) =>
    (s.session state rest).bind fun others => .done ((reply, state) :: others)

/-- The same agent, but for the passphrase of its volume. -/
def keyed (s : Share) (passphrase : Text) : Share :=
  { s with volume := { s.volume with passphrase := some passphrase } }

end Share

/-! ## The one command -/

/-- The command grows the mapping of the volume. -/
def Volume.GrownBy (v : Volume) (c : Command) : Prop :=
  c.program = mappingTool ∧
    c.arguments = (["resize", Volume.mappingName v.name v.engine] : List Text)

instance (v : Volume) (c : Command) : Decidable (v.GrownBy c) :=
  inferInstanceAs (Decidable (_ ∧ _))

/-- The command with the passphrase to read if it grows the mapping, and with nothing otherwise. -/
def Command.supplied (v : Volume) (passphrase : Text) (c : Command) : Command :=
  { c with input := if v.GrownBy c then some passphrase else none }

/-- The call with its command supplied, if it runs one. -/
def KernelCall.supplied (v : Volume) (passphrase : Text) : KernelCall → KernelCall
  | .run c => .run (c.supplied v passphrase)
  | call => call

/-- Passes a call on, with its command supplied. -/
def KernelCall.supply (v : Volume) (passphrase : Text) : (call : KernelCall) → OnKernel call.Answer
  | .run c => (KernelCall.run (c.supplied v passphrase)).onKernel
  | call => call.onKernel

/-- What a command is given to read is no part of what its answer depends on. -/
def Blind {σ : Type} (answer : (call : KernelCall) → σ → call.Answer × σ) : Prop :=
  ∀ (c : Command) (input : Option Text) (now : σ),
    answer (.run { c with input := input }) now = answer (.run c) now

/-- Keeps a log of the calls. -/
def logged {σ : Type} (answer : (call : KernelCall) → σ → call.Answer × σ) (call : KernelCall)
    (now : σ × List KernelCall) : call.Answer × (σ × List KernelCall) :=
  ((answer call now.1).1, (answer call now.1).2, now.2 ++ [call])

variable {v : Volume} {s : Share} {p q : Text} {σ α : Type}

theorem Command.supplied_of_not_grownBy {c : Command} (hinput : c.input = none)
    (h : ¬ v.GrownBy c) : c.supplied v p = c := by
  simp only [supplied, h, if_false, ← hinput]

theorem KernelCall.supply_plain {call : KernelCall} (h : call.Plain) :
    call.supply v p = call.onKernel := by
  cases call with
  | run c =>
    obtain ⟨hinput, hprogram⟩ := h
    rw [supply, Command.supplied_of_not_grownBy hinput fun hgrown => hprogram hgrown.1]
  | _ => rfl

/-! ## Steps -/

/-- A step whose calls are supplied on their way to the host. -/
def HostCall.performSupplied (s : Share) (passphrase : Text) (call : HostCall) :
    OnKernel call.Answer :=
  (call.perform s.settings).refine (KernelCall.supply s.volume passphrase)

theorem HostCall.performSupplied_plain {call : HostCall} (h : call.Plain) :
    call.performSupplied s p = call.perform s.settings :=
  (HostCall.perform_asks _ h).refine_eq_self fun _ => KernelCall.supply_plain

/-- Looking whether the mapping is open is no growing. -/
theorem Command.supplied_status {name : Text} {timeout : Span} :
    supplied v p ⟨mappingTool, ["status", name], none, timeout⟩ =
      ⟨mappingTool, ["status", name], none, timeout⟩ := by
  refine supplied_of_not_grownBy rfl ?_
  rintro ⟨-, harguments⟩
  have hword : Text.ofString "status" = "resize" := (List.cons.inj harguments).1
  exact absurd hword (by decide)

theorem Command.supplied_resize {timeout : Span} :
    supplied v q ⟨mappingTool, ["resize", Volume.mappingName v.name v.engine], some p, timeout⟩ =
      ⟨mappingTool, ["resize", Volume.mappingName v.name v.engine], some q, timeout⟩ := by
  simp only [supplied, Volume.GrownBy, and_self, if_true]

theorem ask_run_congr {c c' : Command} {next other : Except HostError Text → OnKernel α}
    (hc : c = c') (h : ∀ reply, next reply = other reply) :
    (ask (.run c) next : OnKernel α) = ask (.run c') other := by
  subst hc
  exact congrArg _ (funext h)

/-- Growing the mapping with one passphrase comes to growing it with the other. -/
theorem HostCall.performSupplied_resizeMapping :
    (resizeMapping s.volume.name s.volume.engine p).performSupplied s q =
      (resizeMapping s.volume.name s.volume.engine q).perform s.settings := by
  refine ask_run_congr Command.supplied_status ?_
  rintro (e | output)
  · cases e <;> rfl
  · refine ask_run_congr Command.supplied_resize ?_
    rintro (e | output) <;> rfl

/-! ## Operations -/

/-- Steps that do not grow the mapping need no supply. -/
theorem refine_performSupplied {d : OnHost α} (hd : d.Asks HostCall.Plain) :
    d.refine (HostCall.performSupplied s p) = d.refine (HostCall.perform s.settings) :=
  hd.refine_congr fun _ => HostCall.performSupplied_plain

namespace Share

/-- Only growing the filesystem needs the passphrase. -/
theorem plain_of_mem_steps {op : Operation} (hop : op ≠ .resize) {call : HostCall}
    (h : call ∈ s.steps op) : call.Plain := by
  cases op with
  | resize => exact (hop rfl).elim
  | mount =>
    simp only [steps, mountSteps, List.mem_cons, List.not_mem_nil, or_false] at h
    rcases h with rfl | rfl | rfl | rfl | rfl <;> trivial
  | unmount =>
    simp only [steps, unmountSteps, List.mem_cons, List.not_mem_nil, or_false] at h
    rcases h with rfl | rfl | rfl | rfl | rfl | rfl <;> trivial
  | trim encryptedDevice =>
    simp only [steps, trimSteps, List.mem_cons, List.not_mem_nil, or_false] at h
    rcases h with rfl | rfl | rfl | rfl | rfl | rfl
    case inr.inr.inr.inr.inr => exact KernelCall.plain_run (by decide)
    all_goals trivial

theorem resizeMapping_keyed :
    (s.keyed p).resizeMapping.run.refine (HostCall.performSupplied s q) =
      (s.keyed q).resizeMapping.run.refine (HostCall.perform s.settings) := by
  refine refine_run_bind_congr (refine_performSupplied (asks_orFail (asks_put trivial)))
    fun format => ?_
  by_cases hf : format ≠ encryptedFormat
  · rw [if_pos hf, if_pos hf]
    rfl
  · rw [if_neg hf, if_neg hf]
    -- What is left is the one step that has the passphrase in it.
    exact congrArg (fun step : OnKernel (Except HostError Unit) => step.bind _)
      HostCall.performSupplied_resizeMapping

theorem resize_keyed :
    (s.keyed p).resize.run.refine (HostCall.performSupplied s q) =
      (s.keyed q).resize.run.refine (HostCall.perform s.settings) := by
  have hgrow : (s.keyed p).grow.run.refine (HostCall.performSupplied s q) =
      (s.keyed q).grow.run.refine (HostCall.perform s.settings) :=
    refine_performSupplied (grow_asks.mono fun _ h => h ▸ trivial)
  refine refine_run_bind_congr
    (refine_performSupplied ((validate_asks _).mono fun _ h => h ▸ trivial)) fun _ =>
      refine_run_bind_congr (refine_performSupplied (mounted_asks.mono fun _ h => h ▸ trivial))
        fun _ => ?_
  by_cases hencrypted : s.volume.encrypted
  · rw [if_pos (show (s.keyed p).volume.encrypted from hencrypted),
      if_pos (show (s.keyed q).volume.encrypted from hencrypted)]
    exact refine_run_bind_congr resizeMapping_keyed fun _ => hgrow
  · rw [if_neg (show ¬ (s.keyed p).volume.encrypted from hencrypted),
      if_neg (show ¬ (s.keyed q).volume.encrypted from hencrypted)]
    exact hgrow

/-- **An operation with one passphrase, supplied with another, is the operation with the other.** -/
theorem perform_keyed (op : Operation) (state : ShareState) :
    ((s.keyed p).perform op state).refine (HostCall.performSupplied s q) =
      ((s.keyed q).perform op state).refine (HostCall.perform s.settings) := by
  by_cases hop : op = .resize
  · subst hop
    by_cases hbound : state = .unbound
    · subst hbound
      rw [perform_unbound, perform_unbound]
      rfl
    · rw [perform_resize hbound, perform_resize hbound, refine_bind, refine_bind, resize_keyed]
      rfl
  · have hsame : (s.keyed p).perform op state = (s.keyed q).perform op state := by
      cases op with
      | resize => exact (hop rfl).elim
      | _ => rfl
    rw [hsame]
    exact refine_performSupplied ((perform_asks op state).mono fun _ => plain_of_mem_steps hop)

theorem serve_keyed (op : Operation) (state : ShareState) :
    ((s.keyed p).serve op state).refine (HostCall.performSupplied s q) =
      ((s.keyed q).serve op state).refine (HostCall.perform s.settings) := by
  rw [serve, serve, refine_bind, refine_bind, perform_keyed]
  rfl

/-- What is supplied call by call is supplied step by step. -/
theorem refine_supply {d d' : OnHost α} (h : d.refine (HostCall.performSupplied s p) =
    d'.refine (HostCall.perform s.settings)) :
    (d.refine (HostCall.perform s.settings)).refine (KernelCall.supply s.volume p) =
      d'.refine (HostCall.perform s.settings) :=
  (refine_refine _ _ _).trans h

theorem respond_keyed (state : ShareState) (request : Request) :
    ((s.keyed p).respond state request).refine (KernelCall.supply s.volume q) =
      (s.keyed q).respond state request := by
  cases request with
  | direct op =>
    have h := refine_supply (perform_keyed (s := s) (p := p) (q := q) op state)
    rw [respond, respond, refine_bind]
    exact congr (congrArg Dialogue.bind h) rfl
  | remote op =>
    have h := refine_supply (serve_keyed (s := s) (p := p) (q := q) op state)
    rw [respond, respond, refine_bind]
    exact congr (congrArg Dialogue.bind h) rfl

/-- **A session with one passphrase, supplied with another, is the session with the other.** -/
theorem session_keyed (state : ShareState) (requests : List Request) :
    ((s.keyed p).session state requests).refine (KernelCall.supply s.volume q) =
      (s.keyed q).session state requests := by
  induction requests generalizing state with
  | nil => rfl
  | cons request rest ih =>
    rw [session, session, refine_bind, respond_keyed]
    refine congrArg _ (funext fun (reply, state) => ?_)
    rw [refine_bind, ih]
    rfl

end Share

/-! ## Two runs -/

variable {answer : (call : KernelCall) → σ → call.Answer × σ}

/-- Blind surroundings answer a supplied call as they answer the call. -/
theorem Blind.run_supply (h : Blind answer) (call : KernelCall) (now : σ × List KernelCall) :
    (call.supply v p).run (logged answer) now =
      ((answer call now.1).1, (answer call now.1).2, now.2 ++ [call.supplied v p]) := by
  cases call with
  | run c =>
    have hc : answer (.run (c.supplied v p)) now.1 = answer (.run c) now.1 := h c _ now.1
    show ((answer (.run (c.supplied v p)) now.1).1, (answer (.run (c.supplied v p)) now.1).2, _) = _
    rw [hc]
    rfl
  | _ => rfl

/-- The run of a supplied program: only the log is another. -/
theorem Blind.run_refine_supply (h : Blind answer) (d : OnKernel α) (now : σ)
    (log : List KernelCall) :
    (d.refine (KernelCall.supply v p)).run (logged answer) (now, log.map (.supplied v p)) =
      ((d.run (logged answer) (now, log)).1, (d.run (logged answer) (now, log)).2.1,
        (d.run (logged answer) (now, log)).2.2.map (.supplied v p)) := by
  rw [run_refine]
  refine run_map (fun now => (now.1, now.2.map (KernelCall.supplied v p))) (fun call now => ?_) d
    (now, log)
  rw [h.run_supply, logged, List.map_append, List.map_cons, List.map_nil]

namespace Share

/-- One session under two passphrases: the callers learn the same, the surroundings end the same,
and the logs differ in what is supplied. -/
theorem run_session_keyed (hblind : Blind answer) (state : ShareState) (requests : List Request)
    (start : σ) :
    ((s.keyed q).session state requests).run (logged answer) (start, []) =
      ((((s.keyed p).session state requests).run (logged answer) (start, [])).1,
        (((s.keyed p).session state requests).run (logged answer) (start, [])).2.1,
        (((s.keyed p).session state requests).run (logged answer) (start, [])).2.2.map
          (.supplied s.volume q)) := by
  rw [← session_keyed (p := p) (q := q)]
  exact hblind.run_refine_supply _ start []

/-- **A passphrase influences nothing but what one command is given to read.**  Two agents that
differ in their passphrase only are asked the same on hosts that answer commands without regard to
their input.  Then the callers learn the same, with the same messages and the same states, and the
hosts are left the same.  The calls are the same, one by one, except that the command that grows the
mapping reads the passphrase of the agent; no other command is given anything to read.  The volumes
look the same in diagnostics. -/
theorem passphrase_feeds_one_command (s : Share) (p q : Text) (state : ShareState)
    (requests : List Request) (hblind : Blind answer) (start : σ) :
    let first := ((s.keyed p).session state requests).run (logged answer) (start, [])
    let second := ((s.keyed q).session state requests).run (logged answer) (start, [])
    second.1 = first.1 ∧ second.2.1 = first.2.1 ∧
      (∃ calls : List KernelCall, first.2.2 = calls.map (.supplied s.volume p) ∧
        second.2.2 = calls.map (.supplied s.volume q)) ∧
      (s.keyed q).volume.describe = (s.keyed p).volume.describe ∧
      (s.keyed q).volume.describeLines = (s.keyed p).volume.describeLines ∧
      ShareState.initial (s.keyed q).volume = ShareState.initial (s.keyed p).volume := by
  intro first second
  have hsecond := run_session_keyed (s := s) (p := p) (q := q) hblind state requests start
  -- The first agent's own calls are supplied already, with its own passphrase.
  have hfirst := run_session_keyed (s := s) (p := p) (q := p) hblind state requests start
  refine ⟨congrArg (·.1) hsecond, congrArg (·.2.1) hsecond, ⟨first.2.2, ?_, ?_⟩, rfl, rfl, rfl⟩
  · exact congrArg (·.2.2) hfirst
  · exact congrArg (·.2.2) hsecond

/-- An agent of an encrypted volume. -/
def vault : Share := ⟨⟨"pvc-1", .v1, true, none⟩, .standard .standard⟩

/-- What commands write on a host that holds the volume of `vault`, with room to grow. -/
def vaultOutput (c : Command) : Text :=
  if c.program = "blkid" then
    if c.arguments.contains "/dev/longhorn/pvc-1" then "TYPE=crypto_LUKS\n" else "TYPE=ext4\n"
  else if c.program = "blockdev" then "4096\n"
  else if c.program = "dumpe2fs" then "Block size: 1024\nBlock count: 1\n"
  else ""

/-- A host that holds the volume of `vault` and counts its calls. -/
def vaultHost : (call : KernelCall) → Nat → call.Answer × Nat
  | .resolve path, n => (.ok path, n + 1)
  | .mountTable, n =>
    (.ok (Utf8.encode "36 35 253:0 / /export/pvc-1 rw - ext4 /dev/mapper/pvc-1 rw\n"), n + 1)
  | .fileStatus _, n => (.ok ⟨.blockDevice, DeviceNumber.make 253 0⟩, n + 1)
  | .run c, n => (.ok (vaultOutput c), n + 1)
  | .readFile _, n => (.error .notFound, n + 1)
  | .listDirectory _, n => (.ok [], n + 1)
  | .writeFile _ _, n | .rename _ _, n | .makeDirectories _, n | .mount _ _ _, n | .unmount _, n
  | .hangUp _, n => (.ok (), n + 1)
  | .pause _, n => ((), n + 1)

/-- The commands of a log that are given something to read, with what that is. -/
def inputs (log : List KernelCall) : List (Text × Text) :=
  log.filterMap fun
    | .run c => c.input.map (c.line, ·)
    | _ => none

/-- The host lets a remote caller grow the filesystem, and gives away the passphrase once. -/
theorem vault_grown :
    let first := ((vault.keyed "one").session .unmounted [.remote .resize]).run
      (logged vaultHost) (0, [])
    let second := ((vault.keyed "two").session .unmounted [.remote .resize]).run
      (logged vaultHost) (0, [])
    Blind vaultHost ∧ first.1 = [(.remote (.ok ()), .unmounted)] ∧ second.1 = first.1 ∧
      second.2.1 = first.2.1 ∧
      inputs first.2.2 = ([("cryptsetup resize pvc-1", "one")] : List (Text × Text)) ∧
      inputs second.2.2 = ([("cryptsetup resize pvc-1", "two")] : List (Text × Text)) := by
  intro first second
  have hblind : Blind vaultHost := fun _ _ _ => rfl
  obtain ⟨hreplies, hafter, -⟩ :=
    passphrase_feeds_one_command vault "one" "two" .unmounted [.remote .resize] hblind 0
  exact ⟨hblind, rfl, hreplies, hafter, rfl, rfl⟩

end Share
end ShareAgent
