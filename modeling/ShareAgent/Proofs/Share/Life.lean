import ShareAgent.Proofs.Dialogue.Transcript
import ShareAgent.Share.Lifecycle

/-! # The life of an agent

An agent is asked for one operation after the other.  It performs each to its end and remembers
what became of the share, or it is interrupted after any number of steps; then a fresh agent for the
same volume takes its place, which knows nothing of the host.  `Share.Life` is every such history,
with any answers from the host.  Its *transcript* is the list of all steps in order, so a statement
about a transcript and its beginnings speaks about the moment after every single step.
-/
namespace ShareAgent

/-- A step on the host, and what it found. -/
abbrev HostExchange := Exchange HostCall.Answer

/-- A stretch in the life of an agent. -/
inductive Episode
  /-- An operation, performed to its end. -/
  | performed (op : Operation) (exchanges : List HostExchange) (result : Except ShareError Unit)
  /-- An operation that ends with the agent, before or between its steps. -/
  | interrupted (op : Operation) (exchanges : List HostExchange)
  /-- A fresh agent takes over between two operations. -/
  | replaced

namespace Episode

/-- The steps of an episode. -/
def exchanges : Episode → List HostExchange
  | performed _ exchanges _ => exchanges
  | interrupted _ exchanges => exchanges
  | replaced => []

/-- The agent is the same before and after the episode. -/
def Undisturbed : Episode → Prop
  | performed _ _ _ => True
  | _ => False

end Episode

/-- All steps of a history. -/
def transcript (episodes : List Episode) : List HostExchange := episodes.flatMap Episode.exchanges

@[simp] theorem transcript_nil : transcript [] = [] := rfl

@[simp] theorem transcript_cons (e : Episode) (rest : List Episode) :
    transcript (e :: rest) = e.exchanges ++ transcript rest := rfl

namespace Share
open Dialogue

/-- **The life of an agent**, and of those that take its place: `s.Life state episodes state'` if
the first agent remembers `state` at the beginning and, after the episodes, the last one remembers
`state'`. -/
inductive Life (s : Share) : ShareState → List Episode → ShareState → Prop
  | ended (state : ShareState) : Life s state [] state
  | performed {op : Operation} {state middle state' : ShareState}
      {exchanges : List HostExchange} {result : Except ShareError Unit} {rest : List Episode}
      (hlead : (s.perform op state).Leads exchanges (.done (result, middle)))
      (h : Life s middle rest state') :
      Life s state (.performed op exchanges result :: rest) state'
  | interrupted {op : Operation} {state state' : ShareState} {exchanges : List HostExchange}
      {left : OnHost (Except ShareError Unit × ShareState)} {rest : List Episode}
      (hlead : (s.perform op state).Leads exchanges left)
      (h : Life s (.initial s.volume) rest state') :
      Life s state (.interrupted op exchanges :: rest) state'
  | replaced {state state' : ShareState} {rest : List Episode}
      (h : Life s (.initial s.volume) rest state') : Life s state (.replaced :: rest) state'

variable {s : Share} {state state' : ShareState} {episodes : List Episode}

/-- An operation that is broken off inside a beginning of its steps ends the life there. -/
theorem Life.of_leads {op : Operation} {exchanges first : List HostExchange}
    {left : OnHost (Except ShareError Unit × ShareState)}
    (hlead : (s.perform op state).Leads exchanges left) (hfirst : first <+: exchanges) :
    ∃ episodes' last, s.Life state episodes' last ∧ transcript episodes' = first := by
  obtain ⟨_, hcut⟩ := hlead.of_prefix hfirst
  exact ⟨_, _, .interrupted hcut (.ended _), by simp [Episode.exchanges]⟩

/-- **Every beginning of a transcript is one**: the agent is interrupted there. -/
theorem Life.of_prefix (hlife : s.Life state episodes state') {first : List HostExchange}
    (hfirst : first <+: transcript episodes) :
    ∃ episodes' last, s.Life state episodes' last ∧ transcript episodes' = first := by
  induction hlife generalizing first with
  | ended state => exact ⟨[], state, .ended _, (List.prefix_nil.mp hfirst).symm⟩
  | performed hlead _ ih =>
    rcases Dialogue.prefix_append_cases hfirst with hle | ⟨others, rfl, hothers⟩
    · exact Life.of_leads hlead hle
    · obtain ⟨episodes', last, hrest, rfl⟩ := ih hothers
      exact ⟨_, last, .performed hlead hrest, rfl⟩
  | interrupted hlead _ ih =>
    rcases Dialogue.prefix_append_cases hfirst with hle | ⟨others, rfl, hothers⟩
    · exact Life.of_leads hlead hle
    · obtain ⟨episodes', last, hrest, rfl⟩ := ih hothers
      exact ⟨_, last, .interrupted hlead hrest, rfl⟩
  | replaced h ih =>
    obtain ⟨episodes', last, hrest, htranscript⟩ := ih hfirst
    exact ⟨_, last, .replaced hrest, htranscript⟩

/-! ## A life with troubles -/

/-- A share with a volume. -/
def sample : Share := ⟨.named "pvc-1" .v1, .standard .standard⟩

/-- An unmount that ends when the server does not read its configuration, a mount that is broken
off, and a fresh agent after it. -/
def troubled : List Episode :=
  [.performed .unmount
      [⟨.serverRunning, true⟩, ⟨.deleteExport sample.volume.name, .ok ()⟩,
        ⟨.reload, .error (.exportFailed "no signal")⟩]
      (.error (failed "failed to reload nfs export" (.exportFailed "no signal"))),
    .interrupted .mount
      [⟨.serverRunning, true⟩, ⟨.isMountPoint sample.mountPath, .ok true⟩],
    .replaced]

theorem troubled_life : sample.Life (.initial sample.volume) troubled .unmounted := by
  have hunmount : (sample.perform .unmount (.initial sample.volume)).Leads
      [⟨.serverRunning, true⟩, ⟨.deleteExport sample.volume.name, .ok ()⟩,
        ⟨.reload, .error (.exportFailed "no signal")⟩]
      (.done (.error (failed "failed to reload nfs export" (.exportFailed "no signal")),
        .unmounted)) :=
    leads_ask.mpr (leads_ask.mpr (leads_ask.mpr (.here _)))
  have hmount : ∃ left, (sample.perform .mount .unmounted).Leads
      [⟨.serverRunning, true⟩, ⟨.isMountPoint sample.mountPath, .ok true⟩] left :=
    ⟨_, leads_ask.mpr (leads_ask.mpr (.here _))⟩
  obtain ⟨_, hbroken⟩ := hmount
  exact .performed hunmount (.interrupted hbroken (.replaced (.ended _)))

end Share
end ShareAgent
