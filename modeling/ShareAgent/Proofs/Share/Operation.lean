import ShareAgent.Proofs.Share.Calls
import ShareAgent.Proofs.Share.Standing

/-! # Operations on a truthful host

What each part of an operation does to the standing of its volume, after every single step and at
its end.  Publishing needs a mounted volume and is done with all three facts; unmounting comes after
the withdrawal of the export; growing and trimming only look.  So no operation uncovers a volume,
and what the agent remembers after one is true of the host (`perform_always`).  On a host without
faults mounting ends with the full share and unmounting with nothing left of it.
-/
namespace ShareAgent

/-- What an agent remembers is true of its host: an exported share is mounted, configured and
served. -/
def ShareState.TrueOf (state : ShareState) (h : Standing) : Prop := state = .exported → h = .full

namespace Share
open Dialogue

variable {s : Share} {h : Standing} {α ε σ : Type}

/-- A step fails the operation, or the operation goes on with what the step found. -/
theorem always_orFail {w : Surroundings HostCall.Answer σ} {I : σ → Prop} {a : σ}
    {blame : ε → ShareError} {step : OnHost (Except ε α)} {goal : Except ShareError α → σ → Prop} :
    (orFail blame step).run.Always w I goal a ↔
      step.Always w I (fun answer a' => goal (answer.mapError blame) a') a :=
  always_bind

/-- A step on the host fails the operation, or is followed by the rest. -/
theorem leads_step_bind {β : Type} {blame : ε → ShareError} {step : OnHost (Except ε α)}
    {next : α → ExceptT ShareError OnHost β} {r : Except ShareError β}
    {exchanges : List (Exchange HostCall.Answer)} :
    (orFail blame step >>= next).run.Leads exchanges (.done r) ↔
      (∃ e, step.Leads exchanges (.done (.error e)) ∧ r = .error (blame e)) ∨
      ∃ first second a, exchanges = first ++ second ∧ step.Leads first (.done (.ok a)) ∧
        (next a).run.Leads second (.done r) := by
  have hstep : ∀ {l : List (Exchange HostCall.Answer)} {r' : Except ShareError α},
      (orFail blame step).run.Leads l (.done r') ↔
        ∃ answer, step.Leads l (.done answer) ∧ r' = answer.mapError blame := leads_map
  simp only [leads_run_bind_iff, hstep]
  constructor
  · rintro (⟨_, ⟨e | a, hanswer, he⟩, rfl⟩ | ⟨first, second, _, rfl, ⟨e | a, hanswer, ha⟩, hnext⟩)
    · obtain rfl := Except.error.inj he
      exact .inl ⟨e, hanswer, rfl⟩
    · cases he
    · cases ha
    · obtain rfl := Except.ok.inj ha
      exact .inr ⟨first, second, _, rfl, hanswer, hnext⟩
  · rintro (⟨e, hanswer, rfl⟩ | ⟨first, second, a, rfl, hanswer, hnext⟩)
    · exact .inl ⟨blame e, ⟨.error e, hanswer, rfl⟩, rfl⟩
    · exact .inr ⟨first, second, a, rfl, ⟨.ok a, hanswer, rfl⟩, hnext⟩

/-! ## Mounting and exporting -/

theorem ensureMounted_always : s.ensureMounted.run.Always s.Truthful
    (fun h' => h.Covered → h'.Covered) (fun r h' => r = .ok () → h'.mounted) h := by
  simp only [ensureMounted, always_run_bind, always_orFail, HostCall.onHost, always_put]
  rintro (e | mounted) h₁ hlook
  · obtain rfl := truthful_isMountPoint_error.mp hlook
    exact ⟨id, fun hr => nomatch hr⟩
  obtain ⟨rfl, rfl⟩ := truthful_isMountPoint_ok.mp hlook
  refine ⟨id, ?_⟩
  cases hm : h₁.mounted with
  | true => exact fun _ => hm
  | false =>
    rintro (e | ⟨⟩) h₂ hmount
    · obtain rfl := truthful_mount_error.mp hmount
      exact ⟨id, fun hr => nomatch hr⟩
    · obtain rfl := truthful_mount_ok.mp hmount
      exact ⟨fun _ => Standing.covered_of_mounted rfl, fun _ => rfl⟩

/-- A volume that is mounted stays so while it is exported. -/
theorem publish_always (hm : h.mounted) : s.publish.run.Always s.Truthful
    (fun h' => h'.mounted) (fun r h' => r = .ok () → h' = .full) h := by
  simp only [publish, always_run_bind, always_orFail, HostCall.onHost, always_put]
  rintro (e | id) h₁ hcreate
  · obtain rfl := truthful_createExport_error.mp hcreate
    exact ⟨hm, fun hr => nomatch hr⟩
  obtain rfl := truthful_createExport_ok.mp hcreate
  refine ⟨hm, ?_⟩
  rintro (e | ⟨⟩) h₂ hreload
  · rcases truthful_reload_error.mp hreload with rfl | rfl <;> exact ⟨hm, fun hr => nomatch hr⟩
  · obtain rfl := truthful_reload_ok.mp hreload
    exact ⟨hm, fun _ => by rw [hm]; rfl⟩

theorem mountAndExport_always : s.mountAndExport.run.Always s.Truthful
    (fun h' => h.Covered → h'.Covered) (fun r h' => r = .ok () → h' = .full) h := by
  rw [mountAndExport, always_run_bind]
  refine ensureMounted_always.imp ?_
  rintro (e | ⟨⟩) h₁ hm
  · exact fun hr => nomatch hr
  · exact (publish_always (hm rfl)).mono (fun _ _ _ _ hw => hw)
      (fun _ hm _ => Standing.covered_of_mounted hm) (fun _ _ hr => hr)

/-! ## Unexporting and unmounting -/

theorem withdraw_always : s.withdraw.run.Always s.Truthful
    (fun h' => h.Covered → h'.Covered) (fun r h' => r = .ok () → h'.Withdrawn) h := by
  simp only [withdraw, always_run_bind, always_orFail, HostCall.onHost, always_put]
  rintro (e | ⟨⟩) h₁ hdelete
  · obtain rfl := truthful_deleteExport_error.mp hdelete
    exact ⟨id, fun hr => nomatch hr⟩
  obtain rfl := truthful_deleteExport_ok.mp hdelete
  -- The server may still serve the export that the configuration has no longer.
  have hserved : h.Covered → Standing.Covered { h with configured := false } := by
    rintro hc (hfalse | hl)
    · cases hfalse
    · exact hc (.inr hl)
  refine ⟨hserved, ?_⟩
  rintro (e | ⟨⟩) h₂ hreload
  · rcases truthful_reload_error.mp hreload with rfl | rfl
    · exact ⟨fun _ => Standing.Withdrawn.covered ⟨rfl, rfl⟩, fun hr => nomatch hr⟩
    · exact ⟨hserved, fun hr => nomatch hr⟩
  · obtain rfl := truthful_reload_ok.mp hreload
    exact ⟨fun _ => Standing.Withdrawn.covered ⟨rfl, rfl⟩, fun _ => ⟨rfl, rfl⟩⟩

theorem unmountOnce_always (hw : h.Withdrawn) : (unmountOnce s.mountPath).Always s.Truthful
    Standing.Withdrawn (fun _ h' => h'.Withdrawn) h := by
  rintro (e | mounted) h₁ hlook
  · obtain rfl := truthful_isMountPoint_error.mp hlook
    exact ⟨hw, hw⟩
  obtain ⟨rfl, rfl⟩ := truthful_isMountPoint_ok.mp hlook
  refine ⟨hw, ?_⟩
  cases h₁.mounted with
  | false => exact hw
  | true =>
    rintro (e | ⟨⟩) h₂ hunmount
    · obtain rfl := truthful_unmount_error.mp hunmount
      exact ⟨hw, hw⟩
    · obtain rfl := truthful_unmount_ok.mp hunmount
      exact ⟨hw, hw⟩

/-- However often a busy volume is tried again, nothing is exported in the meantime. -/
theorem unmountRetrying_always (interval : Span) (retries : Nat) (hw : h.Withdrawn) :
    (unmountRetrying s.mountPath interval retries).Always s.Truthful
      Standing.Withdrawn (fun _ h' => h'.Withdrawn) h := by
  induction retries generalizing h with
  | zero => exact unmountOnce_always hw
  | succ retries ih =>
    rw [unmountRetrying, always_bind]
    refine (unmountOnce_always hw).imp ?_
    rintro (e | ⟨⟩) h₁ hw₁
    · by_cases hbusy : e.isBusy
      · -- Between two attempts only time passes, so the next begins as the first did.
        simp only [hbusy, if_true]
        rintro ⟨⟩ h₂ hpause
        obtain rfl := truthful_pause.mp hpause
        exact ⟨hw₁, ih hw₁⟩
      · simp only [hbusy]
        exact hw₁
    · exact hw₁

theorem unexportAndUnmount_always : s.unexportAndUnmount.run.Always s.Truthful
    (fun h' => h.Covered → h'.Covered) (fun _ _ => True) h := by
  rw [unexportAndUnmount, always_run_bind]
  refine withdraw_always.imp ?_
  rintro (e | ⟨⟩) h₁ hw
  -- A failed withdrawal ends the operation before anything is unmounted.
  · trivial
  · refine always_orFail.mpr ?_
    exact (unmountRetrying_always _ _ (hw rfl)).mono (fun _ _ _ _ hw => hw)
      (fun _ hw _ => hw.covered) (fun _ _ _ => trivial)

/-! ## Growing and trimming -/

/-- Growing a filesystem mounts and exports nothing, and undoes neither. -/
theorem looks_of_mem_resizeSteps {call : HostCall} (h : call ∈ s.resizeSteps) : call.Looks := by
  simp only [resizeSteps, mappingSteps, List.mem_cons, List.mem_map] at h
  rcases h with rfl | rfl | rfl | rfl | ⟨passphrase, -, rfl⟩ <;> trivial

/-- Neither does trimming one. -/
theorem looks_of_mem_trimSteps {encryptedDevice : Bool} {call : HostCall}
    (h : call ∈ s.trimSteps encryptedDevice) : call.Looks := by
  simp only [trimSteps, List.mem_cons, List.not_mem_nil, or_false] at h
  rcases h with rfl | rfl | rfl | rfl | rfl | rfl <;> trivial

/-! ## On a host without faults -/

theorem ensureMounted_flawless : s.ensureMounted.run.Always s.Flawless (fun _ => True)
    (fun r h' => r = .ok () ∧ h'.mounted) h := by
  simp only [ensureMounted, always_run_bind, always_orFail, HostCall.onHost, always_put]
  rintro (e | mounted) h₁ ⟨hlook, hok⟩
  · cases hok
  obtain ⟨rfl, rfl⟩ := truthful_isMountPoint_ok.mp hlook
  refine ⟨trivial, ?_⟩
  cases hm : h₁.mounted with
  | true => exact ⟨rfl, hm⟩
  | false =>
    rintro (e | ⟨⟩) h₂ ⟨hmount, hok⟩
    · cases hok
    · obtain rfl := truthful_mount_ok.mp hmount
      exact ⟨trivial, rfl, rfl⟩

theorem publish_flawless (hm : h.mounted) : s.publish.run.Always s.Flawless (fun _ => True)
    (fun r h' => r = .ok () ∧ h' = .full) h := by
  simp only [publish, always_run_bind, always_orFail, HostCall.onHost, always_put]
  rintro (e | id) h₁ ⟨hcreate, hok⟩
  · cases hok
  obtain rfl := truthful_createExport_ok.mp hcreate
  refine ⟨trivial, ?_⟩
  rintro (e | ⟨⟩) h₂ ⟨hreload, hok⟩
  · cases hok
  · obtain rfl := truthful_reload_ok.mp hreload
    exact ⟨trivial, rfl, by rw [hm]; rfl⟩

theorem mountAndExport_flawless : s.mountAndExport.run.Always s.Flawless (fun _ => True)
    (fun r h' => r = .ok () ∧ h' = .full) h := by
  rw [mountAndExport, always_run_bind]
  refine ensureMounted_flawless.imp ?_
  rintro _ h₁ ⟨rfl, hm⟩
  exact publish_flawless hm

theorem withdraw_flawless : s.withdraw.run.Always s.Flawless (fun _ => True)
    (fun r h' => r = .ok () ∧ h'.Withdrawn) h := by
  simp only [withdraw, always_run_bind, always_orFail, HostCall.onHost, always_put]
  rintro (e | ⟨⟩) h₁ ⟨hdelete, hok⟩
  · cases hok
  obtain rfl := truthful_deleteExport_ok.mp hdelete
  refine ⟨trivial, ?_⟩
  rintro (e | ⟨⟩) h₂ ⟨hreload, hok⟩
  · cases hok
  · obtain rfl := truthful_reload_ok.mp hreload
    exact ⟨trivial, rfl, rfl, rfl⟩

theorem unmountOnce_flawless (hw : h.Withdrawn) : (unmountOnce s.mountPath).Always s.Flawless
    (fun _ => True) (fun r h' => r = .ok () ∧ h' = .clear) h := by
  rintro (e | mounted) h₁ ⟨hlook, hok⟩
  · cases hok
  obtain ⟨rfl, rfl⟩ := truthful_isMountPoint_ok.mp hlook
  obtain ⟨hconf, hlive⟩ := hw
  refine ⟨trivial, ?_⟩
  cases hm : h₁.mounted with
  | false => exact ⟨rfl, by cases h₁; simp_all [Standing.clear]⟩
  | true =>
    rintro (e | ⟨⟩) h₂ ⟨hunmount, hok⟩
    · cases hok
    · obtain rfl := truthful_unmount_ok.mp hunmount
      exact ⟨trivial, rfl, by rw [hconf, hlive]; rfl⟩

/-- Without a fault the first attempt to unmount is the last. -/
theorem unmountRetrying_flawless (interval : Span) (retries : Nat) (hw : h.Withdrawn) :
    (unmountRetrying s.mountPath interval retries).Always s.Flawless
      (fun _ => True) (fun r h' => r = .ok () ∧ h' = .clear) h := by
  cases retries with
  | zero => exact unmountOnce_flawless hw
  | succ retries =>
    rw [unmountRetrying, always_bind]
    refine (unmountOnce_flawless hw).imp ?_
    rintro _ h₁ ⟨rfl, rfl⟩
    exact ⟨rfl, rfl⟩

theorem unexportAndUnmount_flawless : s.unexportAndUnmount.run.Always s.Flawless
    (fun _ => True) (fun r h' => r = .ok () ∧ h' = .clear) h := by
  rw [unexportAndUnmount, always_run_bind]
  refine withdraw_flawless.imp ?_
  rintro _ h₁ ⟨rfl, hw⟩
  refine always_orFail.mpr ((unmountRetrying_flawless _ _ hw).imp ?_)
  rintro _ h₂ ⟨rfl, rfl⟩
  exact ⟨rfl, rfl⟩

/-! ## Whole operations -/

/-- Looking at the host changes neither the volume nor what is remembered of it. -/
theorem looking_always {state : ShareState} {d : OnHost (Except ShareError Unit)}
    (hd : d.Asks HostCall.Looks) :
    (d.bind fun result => .done (result, state)).Always s.Truthful
      (fun h' => h' = h) (fun r h' => r.2 = state ∧ h' = h) h := by
  rw [always_bind]
  exact (hd.always_unchanged Truthful.unchanged).imp fun _ _ hh => ⟨rfl, hh⟩

/-- **One operation on a truthful host.**  After every step a covered volume is covered, and at the
end what the agent remembers is true if it was so before. -/
theorem perform_always (op : Operation) (state : ShareState) :
    (s.perform op state).Always s.Truthful (fun h' => h.Covered → h'.Covered)
      (fun r h' => state.TrueOf h → r.2.TrueOf h') h := by
  by_cases hbound : state = .unbound
  · rw [hbound, perform_unbound]
    exact id
  cases op with
  | mount =>
    cases state with
    | unbound => exact (hbound rfl).elim
    | exported =>
      rw [perform_mount_exported]
      rintro running h₁ hrunning
      obtain rfl := truthful_serverRunning.mp hrunning
      exact ⟨id, id⟩
    | unmounted =>
      rw [perform_mount_unmounted]
      rintro running h₁ hrunning
      obtain rfl := truthful_serverRunning.mp hrunning
      refine ⟨id, ?_⟩
      cases running with
      | false => exact id
      | true =>
        refine always_bind.mpr (mountAndExport_always.imp ?_)
        rintro (e | ⟨⟩) h₂ hdone
        -- After a failure the share is remembered as unmounted, which claims nothing.
        · exact fun _ hr => nomatch hr
        · exact fun _ _ => hdone rfl
  | unmount =>
    rw [perform_unmount hbound]
    rintro running h₁ hrunning
    obtain rfl := truthful_serverRunning.mp hrunning
    refine ⟨id, ?_⟩
    cases running with
    | false => exact id
    | true =>
      refine always_bind.mpr (unexportAndUnmount_always.imp ?_)
      exact fun _ _ _ _ hr => nomatch hr
  | resize =>
    rw [perform_resize hbound]
    refine (looking_always (resize_asks.mono fun _ => looks_of_mem_resizeSteps)).mono
      (fun _ _ _ _ hw => hw) (fun h' hh => hh ▸ id) ?_
    rintro _ h' ⟨rfl, rfl⟩
    exact id
  | trim encryptedDevice =>
    rw [perform_trim hbound]
    refine (looking_always ((trim_asks _).mono fun _ => looks_of_mem_trimSteps)).mono
      (fun _ _ _ _ hw => hw) (fun h' hh => hh ▸ id) ?_
    rintro _ h' ⟨rfl, rfl⟩
    exact id

/-- **Mounting without faults** fills a bound share, unless it was full already. -/
theorem perform_mount_flawless {state : ShareState} (hbound : state ≠ .unbound)
    (htrue : state.TrueOf h) : (s.perform .mount state).Always s.Flawless (fun _ => True)
      (fun r h' => r = (.ok (), .exported) ∧ h' = .full) h := by
  cases state with
  | unbound => exact (hbound rfl).elim
  | exported =>
    rw [perform_mount_exported]
    rintro running h₁ ⟨hrunning, -⟩
    obtain rfl := truthful_serverRunning.mp hrunning
    exact ⟨trivial, rfl, htrue rfl⟩
  | unmounted =>
    rw [perform_mount_unmounted]
    rintro running h₁ ⟨hrunning, rfl⟩
    obtain rfl := truthful_serverRunning.mp hrunning
    refine ⟨trivial, always_bind.mpr (mountAndExport_flawless.imp ?_)⟩
    rintro _ h₂ ⟨rfl, rfl⟩
    exact ⟨rfl, rfl⟩

/-- **Unmounting without faults** leaves nothing of a bound share. -/
theorem perform_unmount_flawless {state : ShareState} (hbound : state ≠ .unbound) :
    (s.perform .unmount state).Always s.Flawless (fun _ => True)
      (fun r h' => r = (.ok (), .unmounted) ∧ h' = .clear) h := by
  rw [perform_unmount hbound]
  rintro running h₁ ⟨hrunning, rfl⟩
  obtain rfl := truthful_serverRunning.mp hrunning
  refine ⟨trivial, always_bind.mpr (unexportAndUnmount_flawless.imp ?_)⟩
  rintro _ h₂ ⟨rfl, rfl⟩
  exact ⟨rfl, rfl⟩

end Share
end ShareAgent
