import ShareAgent.Proofs.Share.Exposure
import ShareAgent.Proofs.Share.Memory

/-! # What is remembered is exact

Over a whole run of one agent the remembered state is a function of the history.  The step is
`perform_remembers`; the induction is over the life of the agent, from any state of a bound share,
since the rest of a life begins in whatever state the first operation has left
(`Life.exported_iff`).  On a truthful host the remembered state is moreover true.
-/
namespace ShareAgent

/-- Some mount of the history completed, and no unmount since then found the server running. -/
def Share.LastExported (s : Share) (episodes : List Episode) : Prop :=
  ∃ before e after, episodes = before ++ e :: after ∧ e.Exports s ∧
    ∀ later ∈ after, ¬ later.Withdraws

namespace Share
open Dialogue

variable {s : Share} {state state' : ShareState} {episodes : List Episode}

/-! ## Histories -/

@[simp] theorem not_lastExported_nil : ¬ s.LastExported [] := by
  rintro ⟨before, e, after, hsplit, -⟩
  simp at hsplit

/-- The last completed mount is the first episode or one of the rest. -/
theorem lastExported_cons {e : Episode} {rest : List Episode} :
    s.LastExported (e :: rest) ↔
      (e.Exports s ∧ ∀ later ∈ rest, ¬ later.Withdraws) ∨ s.LastExported rest := by
  constructor
  · rintro ⟨_ | ⟨x, before⟩, e', after, hsplit, hexports, hafter⟩
    · obtain ⟨rfl, rfl⟩ := List.cons.inj hsplit
      exact .inl ⟨hexports, hafter⟩
    · obtain ⟨rfl, rfl⟩ := List.cons.inj hsplit
      exact .inr ⟨before, e', after, rfl, hexports, hafter⟩
  · rintro (⟨hexports, hafter⟩ | ⟨before, e', after, rfl, hexports, hafter⟩)
    · exact ⟨[], e, rest, rfl, hexports, hafter⟩
    · exact ⟨e :: before, e', after, rfl, hexports, hafter⟩

/-- One operation, read as an episode. -/
theorem Remembers.exported_iff_episode {op : Operation} {exchanges : List HostExchange}
    {result : Except ShareError Unit} (h : s.Remembers op state exchanges result state') :
    state' = .exported ↔ (Episode.performed op exchanges result).Exports s ∨
      state = .exported ∧ ¬ (Episode.performed op exchanges result).Withdraws := by
  rw [h.exported_iff]
  cases op <;> simp [Episode.Exports, Episode.Withdraws]

/-! ## Whole lives -/

/-- A bound share stays bound, whoever performs its operations. -/
theorem Life.bound (hlife : s.Life state episodes state') (hv : s.volume.isBound)
    (hbound : state ≠ .unbound) : state' ≠ .unbound := by
  have hfresh : ShareState.initial s.volume ≠ .unbound := by simp [ShareState.initial, hv]
  induction hlife with
  | ended state => exact hbound
  | performed hlead _ ih => exact ih (perform_remembers hbound hlead).bound
  | interrupted _ _ ih | replaced _ ih => exact ih hfresh

/-- Without a volume an agent stays unbound, whoever performs its operations. -/
theorem Life.stays_unbound (hlife : s.Life state episodes state') (hv : ¬ s.volume.isBound)
    (hstate : state = .unbound) : state' = .unbound := by
  have hfresh : ShareState.initial s.volume = .unbound := by simp [ShareState.initial, hv]
  induction hlife with
  | ended state => exact hstate
  | performed hlead _ ih =>
    subst hstate
    rw [perform_unbound] at hlead
    cases hlead
    exact ih rfl
  | interrupted _ _ ih | replaced _ ih => exact ih hfresh

/-- An agent is unbound exactly if its volume is. -/
theorem Life.unbound_iff (hlife : s.Life (.initial s.volume) episodes state) :
    state = .unbound ↔ ¬ s.volume.isBound :=
  ⟨fun hstate hv => hlife.bound hv (by simp [ShareState.initial, hv]) hstate,
    fun hv => hlife.stays_unbound hv (by simp [ShareState.initial, hv])⟩

/-- One agent with a bound share remembers it as exported exactly if the last completed mount was
not followed by an unmount that found the server running. -/
theorem Life.exported_iff (hlife : s.Life state episodes state') (hbound : state ≠ .unbound)
    (hone : ∀ e ∈ episodes, e.Undisturbed) :
    state' = .exported ↔
      s.LastExported episodes ∨ state = .exported ∧ ∀ e ∈ episodes, ¬ e.Withdraws := by
  induction hlife with
  | ended state => simp
  | performed hlead _ ih =>
    obtain ⟨-, hrest⟩ := List.forall_mem_cons.mp hone
    have hstep := perform_remembers hbound hlead
    rw [ih hstep.bound hrest, hstep.exported_iff_episode, lastExported_cons,
      List.forall_mem_cons, or_and_right, and_assoc, or_left_comm, or_assoc]
  | interrupted | replaced => exact (hone _ (.head _)).elim

/-- An agent without a volume performs nothing. -/
theorem Life.of_unbound (hlife : s.Life state episodes state') (hstate : state = .unbound)
    (hone : ∀ e ∈ episodes, e.Undisturbed) :
    state' = .unbound ∧ ∀ e ∈ episodes, ∃ op, e = .performed op [] (.ok ()) := by
  induction hlife with
  | ended state => exact ⟨hstate, nofun⟩
  | performed hlead _ ih =>
    subst hstate
    obtain ⟨-, hrest⟩ := List.forall_mem_cons.mp hone
    rw [perform_unbound] at hlead
    cases hlead
    obtain ⟨hlast, hall⟩ := ih rfl hrest
    exact ⟨hlast, List.forall_mem_cons.mpr ⟨⟨_, rfl⟩, hall⟩⟩
  | interrupted | replaced => exact (hone _ (.head _)).elim

/-- **What an agent remembers is exact**, over every run of operations and for all answers of its
host.  Without a volume nothing is asked and every operation succeeds.  With one, the share is
remembered as exported exactly after a completed mount that no unmount with a running server has
followed, the next operation changes that as `Remembers` says, and on a truthful host a share that
is remembered as exported is mounted, configured and served. -/
theorem remembered_exactly (hlife : s.Life (.initial s.volume) episodes state)
    (hone : ∀ e ∈ episodes, e.Undisturbed) :
    (s.volume.name = [] →
      state = .unbound ∧ ∀ e ∈ episodes, ∃ op, e = .performed op [] (.ok ())) ∧
    (s.volume.name ≠ [] →
      (state = .exported ↔ s.LastExported episodes) ∧
      (state ≠ .exported → state = .unmounted) ∧
      (∀ op exchanges result state',
        (s.perform op state).Leads exchanges (.done (result, state')) →
          s.Remembers op state exchanges result state') ∧
      ∀ h h', s.Truthful.Follows h (transcript episodes) h' → state = .exported → h' = .full) := by
  constructor
  · intro hname
    exact hlife.of_unbound (by simp [ShareState.initial, Volume.isBound, hname]) hone
  · intro hname
    have hv : s.volume.isBound := by simp [Volume.isBound, hname]
    have hfresh : ShareState.initial s.volume = .unmounted := by simp [ShareState.initial, hv]
    have hbound : state ≠ .unbound := hlife.bound hv (by simp [hfresh])
    refine ⟨?_, ?_, ?_, ?_⟩
    · rw [hlife.exported_iff (by simp [hfresh]) hone]
      simp [hfresh]
    · intro hnot
      cases state with
      | unmounted => rfl
      | unbound => exact (hbound rfl).elim
      | exported => exact (hnot rfl).elim
    · exact fun op exchanges result state' hlead => perform_remembers hbound hlead
    · exact fun h h' hhost => hlife.trueOf hhost (by simp [ShareState.TrueOf, hfresh])

/-- A mount that goes well, and an unmount that the server misses. -/
def published : List Episode :=
  [.performed .mount
      [⟨.serverRunning, true⟩, ⟨.isMountPoint sample.mountPath, .ok false⟩,
        ⟨.mount (sample.device false) sample.mountPath, .ok ()⟩,
        ⟨.createExport sample.volume.name, .ok 1⟩, ⟨.reload, .ok ()⟩]
      (.ok ()),
    .performed .unmount [⟨.serverRunning, false⟩] (.ok ())]

theorem published_life : sample.Life (.initial sample.volume) published .exported := by
  have hmount : (sample.perform .mount (.initial sample.volume)).Leads
      [⟨.serverRunning, true⟩, ⟨.isMountPoint sample.mountPath, .ok false⟩,
        ⟨.mount (sample.device false) sample.mountPath, .ok ()⟩,
        ⟨.createExport sample.volume.name, .ok 1⟩, ⟨.reload, .ok ()⟩]
      (.done (.ok (), .exported)) :=
    leads_ask.mpr (leads_ask.mpr (leads_ask.mpr (leads_ask.mpr (leads_ask.mpr (.here _)))))
  have hunmount : (sample.perform .unmount .exported).Leads [⟨.serverRunning, false⟩]
      (.done (.ok (), .exported)) :=
    leads_ask.mpr (.here _)
  exact .performed hmount (.performed hunmount (.ended _))

/-- After these the share is remembered as exported, and rightly so. -/
theorem remembered_published :
    sample.Life (.initial sample.volume) published .exported ∧ sample.LastExported published ∧
      sample.Truthful.Follows .clear (transcript published) .full ∧
      ∀ h h', sample.Truthful.Follows h (transcript published) h' → h' = .full := by
  have hone : ∀ e ∈ published, e.Undisturbed := by simp [published, Episode.Undisturbed]
  have hhost : sample.Truthful.Follows .clear (transcript published) .full := by
    simp [published, Episode.exchanges, Standing.clear, Standing.full]
  obtain ⟨-, hnamed⟩ := remembered_exactly published_life hone
  obtain ⟨hexported, -, -, htrue⟩ := hnamed (by decide)
  exact ⟨published_life, hexported.mp rfl, hhost, fun h h' hfollows => htrue h h' hfollows rfl⟩

end Share
end ShareAgent
