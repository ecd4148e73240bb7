import ShareAgent.Proofs.Agent.Tools
import ShareAgent.Proofs.Dialogue.Refine
import ShareAgent.Proofs.Export.Removal
import ShareAgent.Proofs.Share.Inventory

/-! # A truthful operating system

What matters of an operating system is the file with the exports and the mount table (`System`).
Calls that concern them are answered truthfully; all others, like those that look for processes, may
be answered in any way (`System.Truthful`).  An unmount takes the last filesystem away that is
mounted on its target.

One lemma for each tool says what its calls come to together.  So the tools that answer the steps of
a share on a truthful system keep an inventory of its mounts (`stocked_by_perform`).
-/
namespace ShareAgent
open Dialogue

/-- The files and the mount table of an operating system. -/
structure System where
  files : Files
  mounts : List MountRecord

namespace System

/-- **A truthful operating system**, as far as the mount table goes and the file of the server.
What is read of the mount table are the records of it. -/
def Truthful (server : Export.Server) (places : Places) : Surroundings KernelCall.Answer System
  | .resolve path, k, answer, k' =>
    (∀ resolved, answer = .ok resolved → places path = some resolved) ∧
      (answer = .error .notFound → places path = none) ∧ k' = k
  | .mountTable, k, answer, k' =>
    (∀ octets table, answer = .ok octets → Mount.asText octets = .ok table →
      Mount.readTable table = k.mounts) ∧ k' = k
  | .mount _ target _, k, answer, k' =>
    if answer.isOk then
      ∃ r : MountRecord, r.isOn places target ∧ k' = { k with mounts := k.mounts ++ [r] }
    else k' = k
  | .unmount target, k, answer, k' =>
    k' = if answer.isOk then { k with mounts := withoutLast (·.isOn places target) k.mounts } else k
  | .readFile path, k, answer, k' =>
    (path = server.config → Files.Truthful (.readFile path) k.files answer k.files) ∧ k' = k
  | .writeFile path content, k, answer, k' =>
    Files.Truthful (.writeFile path content) k.files answer k'.files ∧ k'.mounts = k.mounts
  | .rename path target, k, answer, k' =>
    Files.Truthful (.rename path target) k.files answer k'.files ∧ k'.mounts = k.mounts
  | _, k, _, k' => k' = k

variable {server : Export.Server} {places : Places} {k : System} {path : Path}

/-- Looking for processes and signalling them changes neither files nor mounts. -/
theorem Truthful.watches (call : KernelCall) (k : System) (answer : call.Answer) (k' : System)
    (hcall : call.Watches) (hstep : Truthful server places call k answer k') : k' = k := by
  cases call with
  | readFile => exact hstep.2
  | listDirectory | hangUp => exact hstep
  | _ => exact hcall.elim

/-- To the calls that edit its file, the system is a truthful file system. -/
theorem Truthful.edits (call : KernelCall) (k : System) (answer : call.Answer) (k' : System)
    (hcall : call.Edits server) (hstep : Truthful server places call k answer k') :
    Files.Truthful call k.files answer k'.files := by
  cases call with
  | readFile path =>
    obtain ⟨hfile, rfl⟩ := hstep
    exact hfile hcall
  | makeDirectories path => exact congrArg System.files hstep
  | writeFile | rename => exact hstep.1
  | _ => exact hcall.elim

/-- Editing the file changes no mounts. -/
theorem Truthful.edits_mounts (call : KernelCall) (k : System) (answer : call.Answer) (k' : System)
    (hcall : call.Edits server) (hstep : Truthful server places call k answer k') :
    k'.mounts = k.mounts := by
  cases call with
  | readFile => exact congrArg System.mounts hstep.2
  | makeDirectories => exact congrArg System.mounts hstep
  | writeFile | rename => exact hstep.2
  | _ => exact hcall.elim

/-! ## Mounts -/

theorem resolve_always (path : Path) : (Mount.resolve path).run.Always (Truthful server places)
    (· = k) (fun r k' => k' = k ∧ ∀ resolved, r = .ok resolved → resolved = places path) k := by
  rintro (e | resolved) k' ⟨hfound, hmissing, rfl⟩
  · refine ⟨rfl, ?_⟩
    by_cases he : e = .notFound
    · subst he
      refine ⟨rfl, fun resolved hr => ?_⟩
      rw [hmissing rfl]
      exact (Except.ok.inj hr).symm
    · simp only [he, if_false]
      refine ⟨rfl, ?_⟩
      intro resolved hr
      cases hr
  · exact ⟨rfl, rfl, fun place hr => by rw [hfound resolved rfl, ← Except.ok.inj hr]⟩

/-- What reading the mount table comes to. -/
def recordsOf : Except SystemError Bytes → Except HostError (List MountRecord)
  | .error e => .error (.system e)
  | .ok octets =>
    match Mount.asText octets with
    | .ok table => .ok (Mount.readTable table)
    | .error e => .error (.system e)

theorem records_run :
    Mount.records.run = .ask .mountTable fun answer => .done (recordsOf answer) := by
  rw [Mount.records, ExceptT.run_bind]
  refine congrArg (Dialogue.ask _) (funext fun answer => ?_)
  cases answer with
  | error e => rfl
  | ok octets =>
    rw [recordsOf]
    show ExceptT.run (match Mount.asText octets with | .ok _ => _ | .error _ => _) = _
    cases Mount.asText octets <;> rfl

theorem records_always : Mount.records.run.Always (Truthful server places)
    (· = k) (fun r k' => k' = k ∧ ∀ records, r = .ok records → records = k.mounts) k := by
  rw [records_run]
  rintro answer k' ⟨htable, rfl⟩
  refine ⟨rfl, rfl, ?_⟩
  intro records hr
  cases answer with
  | error e => cases hr
  | ok octets =>
    rw [recordsOf] at hr
    cases htext : Mount.asText octets with
    | error e =>
      rw [htext] at hr
      cases hr
    | ok table =>
      rw [htext] at hr
      rw [← Except.ok.inj hr]
      exact htable octets table rfl htext

/-- The path is said to be a mount point exactly if a filesystem is mounted on it. -/
theorem isMountPoint_always (path : Path) :
    (Mount.isMountPoint path).run.Always (Truthful server places) (· = k) (fun r k' => k' = k ∧
      ∀ mounted, r = .ok mounted → mounted = k.mounts.any (·.isOn places path)) k := by
  rw [Mount.isMountPoint, always_run_bind]
  refine (resolve_always path).imp ?_
  rintro (e | _ | resolved) k₁ ⟨rfl, hplace⟩
  · refine ⟨rfl, ?_⟩
    intro mounted hr
    cases hr
  · refine ⟨rfl, ?_⟩
    intro mounted hr
    rw [← Except.ok.inj hr]
    simp [MountRecord.isOn, ← hplace _ rfl]
  · refine always_run_bind.mpr (records_always.imp ?_)
    rintro (e | records) k₂ ⟨rfl, hrecords⟩
    · refine ⟨rfl, ?_⟩
      intro mounted hr
      cases hr
    · refine ⟨rfl, ?_⟩
      intro mounted hr
      rw [← Except.ok.inj hr, hrecords _ rfl]
      simp [MountRecord.isOn, ← hplace _ rfl]

theorem unmount_always (target : Path) :
    (Mount.unmount target).run.Always (Truthful server places) (fun _ => True)
      (fun r k' => k' = if r.isOk then
        { k with mounts := withoutLast (·.isOn places target) k.mounts } else k) k := by
  rw [Mount.unmount, HostTask.always_call]
  rintro (e | ⟨⟩) k' hstep
  · exact ⟨trivial, hstep⟩
  · exact ⟨trivial, hstep⟩

/-! ## Exports -/

theorem isRunning_always : server.isRunning.Always (Truthful server places) (· = k)
    (fun _ k' => k' = k) k :=
  server.isRunning_asks.always_unchanged Truthful.watches

theorem reload_always : server.reload.run.Always (Truthful server places) (· = k)
    (fun _ k' => k' = k) k :=
  server.reload_asks.always_unchanged Truthful.watches

/-- Deleting an export leaves the other exports, and all mounts. -/
theorem delete_always (volume : Text) :
    (server.delete volume).run.Always (Truthful server places) (fun _ => True)
      (fun r k' => k'.mounts = k.mounts ∧ (r = .ok () → server.exported k'.files =
        (server.exported k.files).filter (! ·.path.same (server.exportRoot.join volume)))) k := by
  have hmounts : (server.delete volume).run.Always (Truthful server places)
      (fun k' => k'.mounts = k.mounts) (fun _ k' => k'.mounts = k.mounts) k :=
    (server.delete_asks volume).always_related (r := fun k k' : System => k'.mounts = k.mounts)
      (fun _ => rfl) (fun _ _ _ hfirst hsecond => hsecond.trans hfirst) Truthful.edits_mounts
  have hfiles : (server.delete volume).run.Always (Truthful server places) (fun _ => True)
      (fun r k' => r = .ok () → server.exported k'.files = _) k :=
    (server.delete_asks volume).always_view Truthful.edits (server.delete_exported volume k.files)
  exact (hmounts.mono (fun _ _ _ _ hw => hw) (fun _ _ => trivial) fun _ _ h => h).and hfiles

end System

/-- A step of trying to unmount. -/
def HostCall.Unmounts : HostCall → Prop
  | .isMountPoint _ | .unmount _ | .pause _ => True
  | _ => False

/-- **The tools keep an inventory of the mounts**, as a host with an inventory does. -/
theorem System.stocked_by_perform {s : Share} {server : Export.Server} {places : Places}
    {fs : Files} (call : HostCall) (k : System) (h : Inventory) (hcall : call.Unmounts)
    (hkept : k.mounts = h.mounts ∧ k.files = fs) :
    (call.perform s.settings).Always (Truthful server places) (fun _ => True)
      (fun answer k' => ∃ h', s.Stocked places call h answer h' ∧
        k'.mounts = h'.mounts ∧ k'.files = fs) k := by
  obtain ⟨hmounts, rfl⟩ := hkept
  cases call with
  | isMountPoint path =>
    refine (isMountPoint_always path).mono (fun _ _ _ _ hw => hw) (fun _ _ => trivial) ?_
    rintro r k' ⟨rfl, hmounted⟩
    exact ⟨h, ⟨fun mounted hr => hmounts ▸ hmounted mounted hr, rfl⟩, hmounts, rfl⟩
  | unmount target =>
    refine (unmount_always target).imp ?_
    rintro (e | ⟨⟩) k' rfl
    · exact ⟨h, rfl, hmounts, rfl⟩
    · exact ⟨_, rfl, congrArg (withoutLast _) hmounts, rfl⟩
  | pause span =>
    rintro ⟨⟩ k' rfl
    exact ⟨trivial, h, rfl, hmounts, rfl⟩
  | _ => exact hcall.elim

end ShareAgent
