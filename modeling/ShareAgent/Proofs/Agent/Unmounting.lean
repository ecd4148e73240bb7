import ShareAgent.Proofs.Agent.System

/-! # What is left after an unmount

An unmount that succeeds has withdrawn the export and, if anything was mounted on the mount path,
has taken the last filesystem there away.  It looks before it unmounts and not afterwards, so of
several filesystems stacked on the path it takes one only, and still reports success.
-/
namespace ShareAgent.Share
open Dialogue

variable {s : Share} {places : Places} {path : Path} {interval : Span} {α ε σ : Type}

/-! ## On a host with an inventory -/

theorem unmountOnce_stocked (h : Inventory) : (unmountOnce path).Always (s.Stocked places)
    (fun _ => True) (fun r h' => if r.isOk then
      h' = { h with mounts := withoutLast (·.isOn places path) h.mounts } else h' = h) h := by
  rintro (e | mounted) h₁ hlook
  · obtain rfl := stocked_isMountPoint_error.mp hlook
    exact ⟨trivial, rfl⟩
  obtain ⟨hmounted, rfl⟩ := stocked_isMountPoint_ok.mp hlook
  refine ⟨trivial, ?_⟩
  cases mounted with
  | false =>
    -- Where nothing is mounted, there is no last one.
    have hnone : withoutLast (·.isOn places path) h₁.mounts = h₁.mounts :=
      withoutLast_of_forall_not (by simpa using hmounted)
    show h₁ = { h₁ with mounts := _ }
    rw [hnone]
  | true =>
    rintro (e | ⟨⟩) h₂ hunmount
    · exact ⟨trivial, stocked_unmount_error.mp hunmount⟩
    · exact ⟨trivial, stocked_unmount_ok.mp hunmount⟩

/-- However often it is tried, at most one filesystem is taken away. -/
theorem unmountRetrying_stocked (retries : Nat) (h : Inventory) :
    (unmountRetrying path interval retries).Always (s.Stocked places) (fun _ => True)
      (fun r h' => if r.isOk then
        h' = { h with mounts := withoutLast (·.isOn places path) h.mounts } else h' = h) h := by
  induction retries with
  | zero => exact unmountOnce_stocked h
  | succ retries ih =>
    rw [unmountRetrying, always_bind]
    refine (unmountOnce_stocked h).imp ?_
    rintro (e | ⟨⟩) h₁ hdone
    · obtain rfl : h₁ = h := hdone
      by_cases hbusy : e.isBusy
      · -- A failed attempt has changed nothing, so the next one begins as it did.
        simp only [hbusy, if_true]
        rintro ⟨⟩ h₂ hpause
        obtain rfl := stocked_pause.mp hpause
        exact ⟨trivial, ih⟩
      · simp only [hbusy]
        rfl
    · exact hdone

/-! ## On a truthful system -/

/-- The server that the settings of the share name. -/
def server (s : Share) : Export.Server := .ofSettings s.settings

theorem always_refine_orFail {w : Surroundings KernelCall.Answer σ} {I : σ → Prop} {k : σ}
    {blame : ε → ShareError} {step : OnHost (Except ε α)} {settings : Settings}
    {goal : Except ShareError α → σ → Prop} :
    ((orFail blame step).run.refine (HostCall.perform settings)).Always w I goal k ↔
      (step.refine (HostCall.perform settings)).Always w I
        (fun answer k' => goal (answer.mapError blame) k') k := by
  show ((step.bind _).refine _).Always w I goal k ↔ _
  rw [refine_bind, always_bind]
  rfl

/-- A step on the host, and what follows it if it succeeds. -/
theorem always_refine_step_bind {β : Type} {w : Surroundings KernelCall.Answer σ}
    {I : σ → Prop} {t : σ} {settings : Settings} {blame : ε → ShareError}
    {step : OnHost (Except ε α)} {next : α → ExceptT ShareError OnHost β}
    {goal : Except ShareError β → σ → Prop} :
    ((orFail blame step >>= next).run.refine (HostCall.perform settings)).Always w I goal t ↔
      (step.refine (HostCall.perform settings)).Always w I (fun
        | .ok a, t' => ((next a).run.refine (HostCall.perform settings)).Always w I goal t'
        | .error e, t' => goal (.error (blame e)) t') t := by
  rw [always_refine_run_bind, always_refine_orFail]
  refine iff_of_eq (congrArg (fun goal => Always w I _ goal t) ?_)
  funext answer t'
  cases answer <;> rfl

theorem withdraw_system (k : System) :
    (s.withdraw.run.refine (HostCall.perform s.settings)).Always
      (System.Truthful s.server places) (fun _ => True)
      (fun r k' => r = .ok () → k'.mounts = k.mounts ∧ s.server.exported k'.files =
        (s.server.exported k.files).filter (! ·.path.same s.mountPath)) k := by
  rw [withdraw, always_refine_run_bind, always_refine_orFail, HostCall.onHost, put_refine]
  refine (System.delete_always s.volume.name).imp ?_
  rintro (e | ⟨⟩) k₁ ⟨hmounts, hexports⟩
  · intro hr
    cases hr
  refine always_refine_orFail.mpr ?_
  rw [HostCall.onHost, put_refine]
  refine System.reload_always.mono (fun _ _ _ _ hw => hw) (fun _ _ => trivial) ?_
  rintro r k₂ rfl hr
  exact ⟨hmounts, hexports rfl⟩

theorem unmountRetrying_system (retries : Nat) (k : System) :
    ((unmountRetrying s.mountPath interval retries).refine (HostCall.perform s.settings)).Always
      (System.Truthful s.server places) (fun _ => True)
      (fun r k' => r = .ok () →
        k'.mounts = withoutLast (·.isOn places s.mountPath) k.mounts ∧ k'.files = k.files) k := by
  have hasks : (unmountRetrying s.mountPath interval retries).Asks HostCall.Unmounts :=
    unmountRetrying_asks trivial trivial trivial retries
  have hstocked : (unmountRetrying s.mountPath interval retries).Always (s.Stocked places) _ _
      ⟨k.mounts, []⟩ := unmountRetrying_stocked retries _
  refine (hstocked.refine (r := fun k' h => k'.mounts = h.mounts ∧ k'.files = k.files) ⟨rfl, rfl⟩
    hasks System.stocked_by_perform).imp ?_
  rintro r k' ⟨h, hdone, hmounts, hfiles⟩ rfl
  obtain rfl := hdone
  exact ⟨hmounts, hfiles⟩

/-- A successful unmount has taken at most one filesystem away, and all exports of the volume. -/
theorem unexportAndUnmount_system (k : System) :
    (s.unexportAndUnmount.run.refine (HostCall.perform s.settings)).Always
      (System.Truthful s.server places) (fun _ => True)
      (fun r k' => r = .ok () →
        k'.mounts = withoutLast (·.isOn places s.mountPath) k.mounts ∧
        s.server.exported k'.files =
          (s.server.exported k.files).filter (! ·.path.same s.mountPath)) k := by
  rw [unexportAndUnmount, always_refine_run_bind]
  refine (withdraw_system k).imp ?_
  rintro (e | ⟨⟩) k₁ hwithdrawn
  · intro hr
    cases hr
  obtain ⟨hmounts, hexports⟩ := hwithdrawn rfl
  refine always_refine_orFail.mpr ((unmountRetrying_system _ k₁).imp ?_)
  rintro (e | ⟨⟩) k₂ hdone hr
  · cases hr
  obtain ⟨hlast, hfiles⟩ := hdone rfl
  exact ⟨hmounts ▸ hlast, hfiles ▸ hexports⟩

/-- **What a successful unmount leaves.**  The agent is bound and finds the server running; the
system is truthful.  Then the exports of the volume are gone and all others are left, and the
filesystems elsewhere are untouched.  On the mount path the last filesystem is taken away, if there
was one, and no other: so nothing is mounted there any more exactly if at most one filesystem was. -/
theorem unmount_takes_the_last {state state' : ShareState}
    {looked rest : List (Exchange KernelCall.Answer)} {k k' : System} (hbound : state ≠ .unbound)
    (hrunning : s.server.isRunning.Leads looked (.done true))
    (hlead : (s.performOnKernel .unmount state).Leads (looked ++ rest)
      (.done (.ok (), state')))
    (hsystem : (System.Truthful s.server places).Follows k (looked ++ rest) k') :
    state' = .unmounted ∧
    s.server.exported k'.files =
      (s.server.exported k.files).filter (! ·.path.same s.mountPath) ∧
    k'.mounts.filter (! ·.isOn places s.mountPath) =
      k.mounts.filter (! ·.isOn places s.mountPath) ∧
    k'.mounts.filter (·.isOn places s.mountPath) =
      (k.mounts.filter (·.isOn places s.mountPath)).dropLast ∧
    ((∀ r ∈ k'.mounts, ¬ r.isOn places s.mountPath) ↔
      (k.mounts.filter (·.isOn places s.mountPath)).length ≤ 1) := by
  obtain ⟨middle, hlooked, hrest⟩ := (Surroundings.follows_append _).mp hsystem
  obtain rfl := System.isRunning_always.ends hrunning hlooked
  rw [performOnKernel, perform_unmount hbound, refine, HostCall.perform] at hlead
  have hlead := (leads_bind_append hrunning).mp hlead
  rw [if_pos rfl, refine_bind] at hlead
  obtain ⟨result, hdone, hpair⟩ := leads_map.mp hlead
  obtain ⟨rfl, rfl⟩ := Prod.mk.inj hpair
  obtain ⟨hmounts, hexports⟩ := (unexportAndUnmount_system middle).ends hdone hrest rfl
  have hon : k'.mounts.filter (·.isOn places s.mountPath) =
      (middle.mounts.filter (·.isOn places s.mountPath)).dropLast := by
    rw [hmounts, filter_withoutLast]
  refine ⟨rfl, hexports, by rw [hmounts, filter_not_withoutLast], hon, ?_⟩
  rw [← List.filter_eq_nil_iff, hon, ← List.length_eq_zero_iff, List.length_dropLast]
  omega

/-! ## Courses of an unmount -/

theorem processes_leads {root : Path} {name : Text} {entries : List Text} {found : List Int}
    {exchanges : List (Exchange KernelCall.Answer)}
    (h : (Export.named root (Export.shownName name) entries).Leads exchanges (.done found)) :
    (Export.processes root name).run.Leads (⟨.listDirectory root, .ok entries⟩ :: exchanges)
      (.done (.ok found.mergeSort)) := by
  have hlist : (HostTask.system (KernelCall.listDirectory root).onKernel).run.Leads
      [⟨.listDirectory root, .ok entries⟩] (.done (.ok entries)) :=
    HostTask.leads_call (leads_ask.mpr (.here _))
  refine (leads_run_bind hlist).mpr ?_
  rw [← List.append_nil exchanges]
  exact (leads_run_bind (HostTask.leads_lift h)).mpr (.here _)

theorem isMountPoint_leads {path place : Path} {octets : Bytes} {table : Text}
    (htext : Mount.asText octets = .ok table) : (Mount.isMountPoint path).run.Leads
      [⟨.resolve path, .ok place⟩, ⟨.mountTable, .ok octets⟩]
      (.done (.ok ((Mount.readTable table).any (·.mountPoint.same place)))) := by
  have hresolve : (Mount.resolve path).run.Leads [⟨.resolve path, .ok place⟩]
      (.done (.ok (some place))) := leads_ask.mpr (.here _)
  have hrecords : Mount.records.run.Leads [⟨.mountTable, .ok octets⟩]
      (.done (.ok (Mount.readTable table))) := by
    rw [System.records_run]
    refine leads_ask.mpr ?_
    rw [System.recordsOf, htext]
    exact .here _
  refine (leads_run_bind hresolve).mpr ?_
  exact (leads_run_bind hrecords).mpr (.here _)

/-- What is found of a server that is the process 42. -/
def serverFound : List (Exchange KernelCall.Answer) :=
  [⟨.listDirectory "/proc", .ok ["42"]⟩,
    ⟨.readFile "/proc/42/comm", .ok (Utf8.encode "ganesha.nfsd\n")⟩]

theorem running_sample : sample.server.running.Leads serverFound (.done [42]) := by
  have hnamed : (Export.named "/proc" (Export.shownName defaultServer) ["42"]).Leads
      [⟨.readFile "/proc/42/comm", .ok (Utf8.encode "ganesha.nfsd\n")⟩] (.done [42]) :=
    leads_ask.mpr (.here _)
  have hprocesses := processes_leads hnamed
  rw [List.mergeSort_singleton] at hprocesses
  rw [Export.Server.running, ← List.append_nil serverFound]
  exact (leads_bind_append hprocesses).mpr (.here _)

theorem isRunning_sample : sample.server.isRunning.Leads serverFound (.done true) := by
  rw [Export.Server.isRunning, ← List.append_nil serverFound]
  exact (leads_bind_append running_sample).mpr (.here _)

theorem reload_sample :
    sample.server.reload.run.Leads (serverFound ++ [⟨.hangUp 42, .ok ()⟩]) (.done (.ok ())) := by
  refine (leads_run_bind (HostTask.leads_lift running_sample)).mpr ?_
  exact leads_ask.mpr (.here _)

/-- What follows in an unmount on a system without a configuration file and with this mount table,
if the kernel does what it is asked for. -/
def unmountingFrom (table : Text) : List (Exchange KernelCall.Answer) :=
  ⟨.readFile sample.settings.exportConfig, .error .notFound⟩ ::
    ((serverFound ++ [⟨.hangUp 42, .ok ()⟩]) ++
      [⟨.resolve sample.mountPath, .ok sample.mountPath⟩, ⟨.mountTable, .ok (Utf8.encode table)⟩,
        ⟨.unmount sample.mountPath, .ok ()⟩])

theorem unmountingFrom_leads {table : Text}
    (hmounted : (Mount.readTable table).any (·.mountPoint.same sample.mountPath)) :
    (sample.performOnKernel .unmount .exported).Leads (serverFound ++ unmountingFrom table)
      (.done (.ok (), .unmounted)) := by
  have htext : Mount.asText (Utf8.encode table) = .ok table := by
    rw [Mount.asText, Utf8.decode?_encode]
  have hlook : (Mount.isMountPoint sample.mountPath).run.Leads
      [⟨.resolve sample.mountPath, .ok sample.mountPath⟩, ⟨.mountTable, .ok (Utf8.encode table)⟩]
      (.done (.ok true)) := hmounted ▸ isMountPoint_leads htext
  refine (leads_bind_append isRunning_sample).mpr ?_
  refine leads_ask.mpr ?_
  refine (leads_bind_append reload_sample).mpr ?_
  refine (leads_bind_append hlook).mpr ?_
  exact leads_ask.mpr (.here _)

/-- A system without files, with this mount table. -/
def mountedOnly (table : Text) : System := ⟨fun _ => none, Mount.readTable table⟩

theorem unmountingFrom_follows (table : Text) :
    (System.Truthful sample.server some).Follows (mountedOnly table)
      (serverFound ++ unmountingFrom table)
      ⟨fun _ => none, withoutLast (·.isOn some sample.mountPath) (Mount.readTable table)⟩ := by
  have hproc : ("/proc/42/comm" : Path) ≠ sample.server.config := by decide
  have hfound : (System.Truthful sample.server some).Follows (mountedOnly table) serverFound
      (mountedOnly table) := ⟨_, rfl, _, ⟨fun h => absurd h hproc, rfl⟩, rfl⟩
  have hmissing : Files.Truthful (.readFile sample.server.config) (fun _ => none)
      (.error .notFound) (fun _ => none) := ⟨rfl, (fun _ h => by cases h), fun _ => rfl⟩
  have htable : ∀ octets text, Except.ok (Utf8.encode table) = (.ok octets : Except SystemError _) →
      Mount.asText octets = .ok text → Mount.readTable text = (mountedOnly table).mounts := by
    rintro _ text ⟨⟩ htext
    rw [Mount.asText, Utf8.decode?_encode] at htext
    exact congrArg Mount.readTable (Except.ok.inj htext).symm
  have hplace : ∀ place, Except.ok sample.mountPath = (.ok place : Except SystemError _) →
      some sample.mountPath = some place := fun _ h => congrArg some (Except.ok.inj h)
  refine (Surroundings.follows_append _).mpr ⟨_, hfound, _, ⟨fun _ => hmissing, rfl⟩, ?_⟩
  refine (Surroundings.follows_append _).mpr ⟨mountedOnly table, ?_, mountedOnly table,
    ⟨hplace, (fun h => by cases h), rfl⟩, mountedOnly table, ⟨htable, rfl⟩, _, rfl, rfl⟩
  exact (Surroundings.follows_append _).mpr ⟨_, hfound, _, rfl, rfl⟩

/-- A mount table with the volume. -/
def mountedOnce : Text := "36 22 8:16 / /export/pvc-1 rw - ext4 /dev/sdb rw\n"

/-- A mount table with two filesystems on the mount path. -/
def mountedTwice : Text := mountedOnce ++ "37 22 8:32 / /export/pvc-1 rw - ext4 /dev/sdc rw\n"

/-- One filesystem is unmounted. -/
theorem unmount_takes_the_last_once : ∃ k', (System.Truthful sample.server some).Follows
    (mountedOnly mountedOnce) (serverFound ++ unmountingFrom mountedOnce) k' ∧
      ∀ r ∈ k'.mounts, ¬ r.isOn some sample.mountPath := by
  have hmounted : (Mount.readTable mountedOnce).any (·.mountPoint.same sample.mountPath) := by
    decide
  have hsystem := unmountingFrom_follows mountedOnce
  have hbound : ShareState.exported ≠ .unbound := by decide
  obtain ⟨-, -, -, -, hnone⟩ := unmount_takes_the_last hbound isRunning_sample
    (unmountingFrom_leads hmounted) hsystem
  exact ⟨_, hsystem, hnone.mpr (by decide)⟩

/-- **A successful unmount can leave a filesystem mounted**: of two that are stacked on the mount
path, the first stays. -/
theorem stacked_left_mounted : ∃ exchanges k',
    (sample.performOnKernel .unmount .exported).Leads exchanges (.done (.ok (), .unmounted)) ∧
      (System.Truthful sample.server some).Follows (mountedOnly mountedTwice) exchanges k' ∧
      ∃ r ∈ k'.mounts, r.isOn some sample.mountPath := by
  have hmounted : (Mount.readTable mountedTwice).any (·.mountPoint.same sample.mountPath) := by
    decide
  exact ⟨_, _, unmountingFrom_leads hmounted, unmountingFrom_follows mountedTwice,
    ⟨"/export/pvc-1", 2064⟩, by decide, by decide⟩

end ShareAgent.Share
