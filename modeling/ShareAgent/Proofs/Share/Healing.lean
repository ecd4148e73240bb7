import ShareAgent.Proofs.Share.Recollection

/-! # One faultless operation repairs everything

After any life of an agent for a bound share, on a truthful host and with whatever failures and
replacements, a single mount without faults ends with the full share, and a single unmount without
faults leaves nothing of it.  For the unmount nothing has to be known about the host.  The mount
does nothing if the share is remembered as exported, and is right to do so because what is
remembered is true (`Life.trueOf`).
-/
namespace ShareAgent.Share
open Dialogue

variable {s : Share} {state : ShareState} {episodes : List Episode} {h h' : Standing}

/-- No question leaves a faultless host without an answer. -/
theorem flawless_answers (call : HostCall) (h : Standing) :
    ∃ answer h', s.Flawless call h answer h' := by
  cases call with
  | isMountPoint path => exact ⟨.ok h.mounted, h, ⟨by simp, rfl⟩, rfl⟩
  | mountInfo path => exact ⟨.ok ⟨path, 0⟩, h, rfl, rfl⟩
  | mount | unmount | createExport | deleteExport => exact ⟨.ok default, _, rfl, rfl⟩
  | validateDevice | resizeMapping | listDirectory => exact ⟨.ok (), h, rfl, rfl⟩
  | deviceNumber | diskFormat | resizeFilesystem | run => exact ⟨.ok default, h, rfl, rfl⟩
  | reload => exact ⟨.ok (), _, .inl rfl, rfl⟩
  | serverRunning => exact ⟨true, h, rfl, rfl⟩
  | pause => exact ⟨(), h, rfl, trivial⟩

/-- **One faultless operation repairs everything.**  After any life with a bound share, a mount in
which no step fails succeeds and ends with the share mounted, configured and served, and an unmount
in which no step fails succeeds and leaves nothing of it. -/
theorem repaired_by_one_operation (hv : s.volume.name ≠ [])
    (hlife : s.Life (.initial s.volume) episodes state)
    (hhost : s.Truthful.Follows h (transcript episodes) h') :
    (s.perform .mount state).SurelyEnds s.Flawless h' (.ok (), .exported) .full ∧
      (s.perform .unmount state).SurelyEnds s.Flawless h' (.ok (), .unmounted) .clear := by
  have hfresh : ShareState.initial s.volume = .unmounted := by
    simp [ShareState.initial, Volume.isBound, hv]
  have hbound : state ≠ .unbound :=
    hlife.bound (by simp [Volume.isBound, hv]) (by simp [hfresh])
  have htrue : state.TrueOf h' := hlife.trueOf hhost (by simp [ShareState.TrueOf, hfresh])
  exact ⟨(perform_mount_flawless hbound htrue).surelyEnds flawless_answers,
    (perform_unmount_flawless hbound).surelyEnds flawless_answers⟩

/-- The life with troubles is no exception. -/
theorem repaired_after_trouble :
    sample.Truthful.Follows .full (transcript troubled) ⟨true, false, true⟩ ∧
      (sample.perform .mount .unmounted).SurelyEnds sample.Flawless ⟨true, false, true⟩
        (.ok (), .exported) .full ∧
      (sample.perform .unmount .unmounted).SurelyEnds sample.Flawless ⟨true, false, true⟩
        (.ok (), .unmounted) .clear := by
  have hhost : sample.Truthful.Follows .full (transcript troubled) ⟨true, false, true⟩ := by
    simp [troubled, Episode.exchanges, Standing.full]
  exact ⟨hhost, repaired_by_one_operation (by decide) troubled_life hhost⟩

end ShareAgent.Share
