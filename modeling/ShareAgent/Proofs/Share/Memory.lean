import ShareAgent.Proofs.Share.Life
import ShareAgent.Proofs.Share.Operation

/-! # What an agent remembers

The remembered state of a share is a function of the history: of which operations were performed and
of what the host answered, whatever these answers are.  A bound share is remembered as exported
exactly if some mount *completed*, that is, found the server running and the volume mounted or
mounted it, and then exported it and reached the server, and if no unmount since then found the
server running.  A share without a volume is never asked about.
-/
namespace ShareAgent

/-- The steps of a mount that went well from the first to the last. -/
def Share.Completes (s : Share) (exchanges : List HostExchange) : Prop :=
  ⟨.serverRunning, true⟩ ∈ exchanges ∧
  (⟨.isMountPoint s.mountPath, .ok true⟩ ∈ exchanges ∨
    ⟨.isMountPoint s.mountPath, .ok false⟩ ∈ exchanges ∧
      ⟨.mount (s.device false) s.mountPath, .ok ()⟩ ∈ exchanges) ∧
  (∃ id, ⟨.createExport s.volume.name, .ok id⟩ ∈ exchanges) ∧ ⟨.reload, .ok ()⟩ ∈ exchanges

/-- The episode is a mount that completed. -/
def Episode.Exports (s : Share) : Episode → Prop
  | .performed .mount exchanges _ => s.Completes exchanges
  | _ => False

/-- The episode is an unmount that found the server running. -/
def Episode.Withdraws : Episode → Prop
  | .performed .unmount exchanges _ => ⟨.serverRunning, true⟩ ∈ exchanges
  | _ => False

/-- What one operation of a bound share does to the remembered state. -/
structure Share.Remembers (s : Share) (op : Operation) (state : ShareState)
    (exchanges : List HostExchange) (result : Except ShareError Unit) (state' : ShareState) :
    Prop where
  exported_iff : state' = .exported ↔
    op = .mount ∧ s.Completes exchanges ∨
      state = .exported ∧ ¬ (op = .unmount ∧ ⟨.serverRunning, true⟩ ∈ exchanges)
  bound : state' ≠ .unbound
  /-- A failed mount leaves the state as it was. -/
  failed_mount : op = .mount → result ≠ .ok () → state' = state
  /-- So does every call that finds the server not running. -/
  not_running : ⟨.serverRunning, false⟩ ∈ exchanges → state' = state
  /-- So does everything but mounting and unmounting. -/
  neither : op ≠ .mount → op ≠ .unmount → state' = state
  /-- An unmount that finds the server running forgets the share, also if it fails. -/
  unmount : op = .unmount → ⟨.serverRunning, true⟩ ∈ exchanges → state' = .unmounted

namespace Share
open Dialogue Surroundings

variable {s : Share} {state state' : ShareState}

/-! ## The steps of mounting and unmounting -/

/-- The server has the export. -/
def Publishes (s : Share) (exchanges : List HostExchange) : Prop :=
  (∃ id, ⟨.createExport s.volume.name, .ok id⟩ ∈ exchanges) ∧ ⟨.reload, .ok ()⟩ ∈ exchanges

theorem blamed_ne_ok {α ε : Type} {blame : ε → ShareError} {e : ε} {a : α} :
    (Except.error e).mapError blame ≠ .ok a := nofun

theorem publish_recorded (past : List HostExchange) :
    s.publish.run.Always recorder (fun _ => True)
      (fun r now => ∃ new, now = past ++ new ∧ (r = .ok () ↔ s.Publishes new)) past := by
  simp only [publish, always_run_bind, always_orFail, HostCall.onHost, always_put]
  rintro (e | id) _ rfl
  · exact ⟨trivial, _, rfl, by simp [Publishes]⟩
  refine ⟨trivial, ?_⟩
  rintro (e | ⟨⟩) _ rfl
  · exact ⟨trivial, _, List.append_assoc .., iff_of_false blamed_ne_ok (by simp [Publishes])⟩
  · exact ⟨trivial, _, List.append_assoc .., iff_of_true rfl (by simp [Publishes])⟩

/-- Mounting and exporting succeeds exactly if all of its steps do. -/
theorem mountAndExport_recorded :
    s.mountAndExport.run.Always recorder (fun _ => True)
      (fun r now => r = .ok () ↔ s.Completes now) [⟨.serverRunning, true⟩] := by
  rw [mountAndExport, always_run_bind]
  simp only [ensureMounted, always_run_bind, always_orFail, HostCall.onHost, always_put]
  rintro (e | mounted) _ rfl
  · exact ⟨trivial, iff_of_false blamed_ne_ok (by simp [Completes])⟩
  refine ⟨trivial, ?_⟩
  cases mounted with
  | true =>
    refine (publish_recorded _).imp ?_
    rintro r _ ⟨new, rfl, hr⟩
    exact hr.trans (by simp [Completes, Publishes])
  | false =>
    refine always_orFail.mpr ?_
    rintro (e | ⟨⟩) _ rfl
    · exact ⟨trivial, iff_of_false blamed_ne_ok (by simp [Completes])⟩
    · refine ⟨trivial, (publish_recorded _).imp ?_⟩
      rintro r _ ⟨new, rfl, hr⟩
      exact hr.trans (by simp [Completes, Publishes])

/-- Whether the server runs is asked before mounting, and not again. -/
theorem ne_serverRunning_of_mem_mountSteps {call : HostCall} (h : call ∈ s.mountSteps) :
    call ≠ .serverRunning := by
  rintro rfl
  simp [mountSteps] at h

/-- It is asked before unmounting, and not again. -/
theorem ne_serverRunning_of_mem_unmountSteps {call : HostCall} (h : call ∈ s.unmountSteps) :
    call ≠ .serverRunning := by
  rintro rfl
  simp [unmountSteps] at h

/-! ## One operation -/

/-- The state is kept where no mount completes and no unmount begins. -/
theorem Remembers.kept {op : Operation} {exchanges : List HostExchange}
    {result : Except ShareError Unit} (hbound : state ≠ .unbound)
    (hmount : op = .mount → ¬ s.Completes exchanges)
    (hunmount : op = .unmount → ⟨.serverRunning, true⟩ ∉ exchanges) :
    s.Remembers op state exchanges result state where
  exported_iff := by
    constructor
    · exact fun hexp => .inr ⟨hexp, fun h => hunmount h.1 h.2⟩
    · rintro (⟨hop, hdone⟩ | ⟨hexp, -⟩)
      · exact (hmount hop hdone).elim
      · exact hexp
  bound := hbound
  failed_mount _ _ := rfl
  not_running _ := rfl
  neither _ _ := rfl
  unmount hop hrunning := (hunmount hop hrunning).elim

/-- The one answer about the server is the first. -/
theorem not_mem_of_quiet {new : List HostExchange}
    (hnew : ∀ x ∈ new, x.question ≠ .serverRunning) :
    ⟨.serverRunning, false⟩ ∉ [] ++ [⟨.serverRunning, true⟩] ++ new := by
  intro hmem
  rcases List.mem_cons.mp hmem with hfirst | hlater
  · cases hfirst
  · exact hnew _ hlater rfl

/-- **What one operation of a bound share does to the remembered state**, for any answers. -/
theorem perform_remembers (hbound : state ≠ .unbound) {op : Operation}
    {exchanges : List HostExchange} {result : Except ShareError Unit}
    (hlead : (s.perform op state).Leads exchanges (.done (result, state'))) :
    s.Remembers op state exchanges result state' := by
  -- Said of the transcript that a recorder keeps, it can be proved step by step.
  suffices h : (s.perform op state).Always recorder (fun _ => True)
      (fun r now => s.Remembers op state now r.1 r.2) [] from h.of_recorder hlead
  cases op with
  | mount =>
    cases state with
    | unbound => exact (hbound rfl).elim
    | exported =>
      rw [perform_mount_exported]
      rintro running _ rfl
      exact ⟨trivial, .kept hbound (fun _ => by simp [Completes]) nofun⟩
    | unmounted =>
      rw [perform_mount_unmounted]
      rintro running _ rfl
      refine ⟨trivial, ?_⟩
      cases running with
      | false => exact .kept hbound (fun _ => by simp [Completes]) nofun
      | true =>
        have hquiet : s.mountAndExport.run.Asks (· ≠ .serverRunning) :=
          mountAndExport_asks.mono fun _ => ne_serverRunning_of_mem_mountSteps
        refine always_bind.mpr ((mountAndExport_recorded.and (hquiet.always_recorder _)).imp ?_)
        rintro (e | ⟨⟩) _ ⟨hdone, new, rfl, hnew⟩
        · exact .kept hbound (fun _ hall => nomatch hdone.mpr hall) nofun
        · exact {
            exported_iff := ⟨fun _ => .inl ⟨rfl, hdone.mp rfl⟩, fun _ => rfl⟩
            bound := nofun
            failed_mount := fun _ hfailed => (hfailed rfl).elim
            not_running := fun hmem => (not_mem_of_quiet hnew hmem).elim
            neither := fun hop => (hop rfl).elim
            unmount := nofun }
  | unmount =>
    rw [perform_unmount hbound]
    rintro running _ rfl
    refine ⟨trivial, ?_⟩
    cases running with
    | false => exact .kept hbound nofun (fun _ => by simp)
    | true =>
      have hquiet : s.unexportAndUnmount.run.Asks (· ≠ .serverRunning) :=
        unexportAndUnmount_asks.mono fun _ => ne_serverRunning_of_mem_unmountSteps
      refine always_bind.mpr ((hquiet.always_recorder _).imp ?_)
      rintro result _ ⟨new, rfl, hnew⟩
      exact {
        exported_iff := by simp
        bound := nofun
        failed_mount := nofun
        not_running := fun hmem => (not_mem_of_quiet hnew hmem).elim
        neither := fun _ hop => (hop rfl).elim
        unmount := fun _ _ => rfl }
  | resize =>
    rw [perform_resize hbound, always_bind]
    exact (resize_asks.always_recorder _).imp fun _ _ _ => .kept hbound nofun nofun
  | trim encryptedDevice =>
    rw [perform_trim hbound, always_bind]
    exact ((trim_asks encryptedDevice).always_recorder _).imp fun _ _ _ =>
      .kept hbound nofun nofun

end Share
end ShareAgent
