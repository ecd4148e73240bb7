import ShareAgent.Proofs.Agent.Tools
import ShareAgent.Proofs.Dialogue.Refine
import ShareAgent.Proofs.Share.Operation
import ShareAgent.Proofs.Share.Recollection

/-! # The order in which layers grow

An encrypted volume has three layers: the raw device, the mapping on it and the filesystem on the
mapping.  The filesystem must not grow before its mapping has, and neither without a look at what is
there.  All courses of a resize are listed, and each of them happens (`resize_leads_iff`); the
filesystem grows in two of them, in the last step, and the steps before it are all checks and the
growth of the mapping (`Clearance`).  Which course it is depends on the answers of the host alone,
so what permits the growth is said of these (`Permits`).

The mapping has an order of its own: the command that grows it is run right after the one that finds
it open (`Guarded`).  That is a property of each step on the host, and a transcript of several steps
has it if the transcripts of the steps do.
-/
namespace ShareAgent
open Dialogue

namespace Share

variable {s : Share} {exchanges : List HostExchange} {result : Except ShareError Unit}

/-! ## The steps of a resize -/

/-- **The courses of growing a mapping**, each with its result. -/
inductive MappingCourse (s : Share) : List HostExchange → Except ShareError Unit → Prop
  | noFormat (e : HostError) :
      MappingCourse s [⟨.diskFormat (s.settings.layout.rawDevice s.volume.name), .error e⟩]
        (.error (failed ("failed to determine disk format of volume " ++ s.volume.name) e))
  /-- The raw device holds something else. -/
  | otherFormat {format : Text} (hformat : format ≠ encryptedFormat) :
      MappingCourse s [⟨.diskFormat (s.settings.layout.rawDevice s.volume.name), .ok format⟩]
        (.error (.invalidArgument ("unsupported disk encryption format " ++ format)))
  | noPassphrase (hpassphrase : s.volume.passphrase = none) :
      MappingCourse s
        [⟨.diskFormat (s.settings.layout.rawDevice s.volume.name), .ok encryptedFormat⟩]
        (.error (.failedPrecondition
          ("volume " ++ s.volume.name ++ " is encrypted but has no passphrase")))
  | asked {passphrase : Text} (answer : Except HostError Unit)
      (hpassphrase : s.volume.passphrase = some passphrase) :
      MappingCourse s
        [⟨.diskFormat (s.settings.layout.rawDevice s.volume.name), .ok encryptedFormat⟩,
          ⟨.resizeMapping s.volume.name s.volume.engine passphrase, answer⟩]
        (answer.mapError (failed ("failed to resize crypto device " ++ (s.device true).text ++
          " for volume " ++ s.volume.name ++ " node expansion")))

/-- **The courses of a resize**, each to its end and with its result. -/
inductive ResizeCourse (s : Share) : List HostExchange → Except ShareError Unit → Prop
  | notADevice (e : HostError) :
      ResizeCourse s [⟨.validateDevice (s.device s.volume.encrypted), .error e⟩]
        (.error (.failedPrecondition
          ("volume " ++ s.volume.name ++ " is not valid: " ++ e.message)))
  | notMounted (e : HostError) :
      ResizeCourse s [⟨.validateDevice (s.device s.volume.encrypted), .ok ()⟩,
        ⟨.mountInfo s.mountPath, .error e⟩]
        (.error (failed ("failed to resolve mount " ++ s.mountPath.text) e))
  | notMapped (record : MountRecord) {mapping : List HostExchange} {e : ShareError}
      (hencrypted : s.volume.encrypted) (hmapping : s.MappingCourse mapping (.error e)) :
      ResizeCourse s (⟨.validateDevice (s.device s.volume.encrypted), .ok ()⟩ ::
        ⟨.mountInfo s.mountPath, .ok record⟩ :: mapping) (.error e)
  | plain (record : MountRecord) (answer : Except HostError Bool)
      (hplain : s.volume.encrypted = false) :
      ResizeCourse s [⟨.validateDevice (s.device s.volume.encrypted), .ok ()⟩,
        ⟨.mountInfo s.mountPath, .ok record⟩,
        ⟨.resizeFilesystem (s.device s.volume.encrypted) s.mountPath, answer⟩]
        ((answer.mapError (failed "failed to resize filesystem")).map fun _ => ())
  | mapped (record : MountRecord) {mapping : List HostExchange} (answer : Except HostError Bool)
      (hencrypted : s.volume.encrypted) (hmapping : s.MappingCourse mapping (.ok ())) :
      ResizeCourse s (⟨.validateDevice (s.device s.volume.encrypted), .ok ()⟩ ::
        ⟨.mountInfo s.mountPath, .ok record⟩ ::
          (mapping ++ [⟨.resizeFilesystem (s.device s.volume.encrypted) s.mountPath, answer⟩]))
        ((answer.mapError (failed "failed to resize filesystem")).map fun _ => ())

/-- Growing the mapping stops at the format, or it ends with the step that grows. -/
theorem resizeMapping_leads_iff :
    s.resizeMapping.run.Leads exchanges (.done result) ↔ s.MappingCourse exchanges result := by
  rw [resizeMapping, leads_step_bind]
  constructor
  · rintro (⟨e, hstep, rfl⟩ | ⟨first, rest, format, rfl, hstep, hnext⟩)
    · rw [leads_put.mp hstep]
      exact .noFormat e
    obtain rfl := leads_put.mp hstep
    by_cases hformat : format ≠ encryptedFormat
    · simp only [if_pos hformat] at hnext
      obtain ⟨rfl, rfl⟩ := leads_done.mp hnext
      exact .otherFormat hformat
    simp only [if_neg hformat] at hnext
    obtain rfl : format = encryptedFormat := Decidable.not_not.mp hformat
    cases hpassphrase : s.volume.passphrase with
    | none =>
      rw [hpassphrase] at hnext
      obtain ⟨rfl, rfl⟩ := leads_done.mp hnext
      exact .noPassphrase hpassphrase
    | some passphrase =>
      rw [hpassphrase] at hnext
      obtain ⟨answer, hanswer, rfl⟩ := leads_map.mp hnext
      obtain rfl := leads_put.mp hanswer
      exact .asked answer hpassphrase
  · intro h
    cases h with
    | noFormat e => exact .inl ⟨e, leads_put.mpr rfl, rfl⟩
    | @otherFormat format hformat =>
      refine .inr ⟨[_], [], format, rfl, leads_put.mpr rfl, ?_⟩
      simp only [if_pos hformat]
      exact .here _
    | noPassphrase hpassphrase =>
      refine .inr ⟨[_], [], encryptedFormat, rfl, leads_put.mpr rfl, ?_⟩
      simp only [hpassphrase]
      exact .here _
    | asked answer hpassphrase =>
      refine .inr ⟨[_], [_], encryptedFormat, rfl, leads_put.mpr rfl, ?_⟩
      simp only [hpassphrase]
      exact leads_map.mpr ⟨answer, leads_put.mpr rfl, rfl⟩

theorem grow_leads_iff : s.grow.run.Leads exchanges (.done result) ↔ ∃ answer,
    exchanges = [⟨.resizeFilesystem (s.device s.volume.encrypted) s.mountPath, answer⟩] ∧
      result = (answer.mapError (failed "failed to resize filesystem")).map fun _ => () := by
  have hrun : s.grow.run = .ask (.resizeFilesystem (s.device s.volume.encrypted) s.mountPath)
      fun answer => .done ((answer.mapError (failed "failed to resize filesystem")).map
        fun _ => ()) := by
    show Dialogue.ask _ _ = _
    refine congrArg _ (funext fun answer => ?_)
    cases answer <;> rfl
  rw [hrun, leads_ask_done]

/-- Once both checks went well, the rest depends on whether there is a mapping. -/
theorem resize_leads_checked {record : MountRecord} : s.resize.run.Leads
    (⟨.validateDevice (s.device s.volume.encrypted), .ok ()⟩ ::
      ⟨.mountInfo s.mountPath, .ok record⟩ :: exchanges) (.done result) ↔
    (if s.volume.encrypted then s.resizeMapping >>= fun _ => s.grow else s.grow).run.Leads
      exchanges (.done result) :=
  leads_ask.trans leads_ask

/-- **These are all courses, and each of them happens.** -/
theorem resize_leads_iff :
    s.resize.run.Leads exchanges (.done result) ↔ s.ResizeCourse exchanges result := by
  constructor
  · intro h
    rw [resize, validate, leads_step_bind] at h
    rcases h with ⟨e, hstep, rfl⟩ | ⟨first, rest, ⟨⟩, rfl, hstep, hnext⟩
    · rw [leads_put.mp hstep]
      exact .notADevice e
    obtain rfl := leads_put.mp hstep
    rw [mounted, leads_step_bind] at hnext
    rcases hnext with ⟨e, hlook, rfl⟩ | ⟨first, rest, record, rfl, hlook, hgrow⟩
    · rw [leads_put.mp hlook]
      exact .notMounted e
    obtain rfl := leads_put.mp hlook
    dsimp only at hgrow
    by_cases hencrypted : s.volume.encrypted
    · rw [if_pos hencrypted, leads_run_bind_iff] at hgrow
      rcases hgrow with ⟨e, hmapping, rfl⟩ | ⟨mapping, last, ⟨⟩, rfl, hmapping, hgrow⟩
      · exact .notMapped record hencrypted (resizeMapping_leads_iff.mp hmapping)
      · obtain ⟨answer, rfl, rfl⟩ := grow_leads_iff.mp hgrow
        exact .mapped record answer hencrypted (resizeMapping_leads_iff.mp hmapping)
    · rw [if_neg hencrypted] at hgrow
      obtain ⟨answer, rfl, rfl⟩ := grow_leads_iff.mp hgrow
      exact .plain record answer (Bool.not_eq_true _ ▸ hencrypted)
  · intro h
    cases h with
    | notADevice e => exact leads_ask.mpr (.here _)
    | notMounted e => exact leads_ask.mpr (leads_ask.mpr (.here _))
    | notMapped record hencrypted hmapping =>
      rw [resize_leads_checked, if_pos hencrypted, leads_run_bind_iff]
      exact .inl ⟨_, resizeMapping_leads_iff.mpr hmapping, rfl⟩
    | plain record answer hplain =>
      rw [resize_leads_checked, if_neg (by simp [hplain])]
      exact grow_leads_iff.mpr ⟨answer, rfl, rfl⟩
    | mapped record answer hencrypted hmapping =>
      rw [resize_leads_checked, if_pos hencrypted,
        leads_run_bind (resizeMapping_leads_iff.mpr hmapping)]
      exact grow_leads_iff.mpr ⟨answer, rfl, rfl⟩

/-! ## What follows for every course -/

/-- **All checks go well** by these answers, and so does the growth of the mapping if there is
one. -/
structure Permits (s : Share) (answers : (call : HostCall) → call.Answer) : Prop where
  valid : answers (.validateDevice (s.device s.volume.encrypted)) = .ok ()
  mounted : ∃ record, answers (.mountInfo s.mountPath) = .ok record
  mapped : s.volume.encrypted →
    answers (.diskFormat (s.settings.layout.rawDevice s.volume.name)) = .ok "crypto_LUKS" ∧
    ∃ passphrase, s.volume.passphrase = some passphrase ∧
      answers (.resizeMapping s.volume.name s.volume.engine passphrase) = .ok ()

/-- What comes before the growth of the filesystem, to the last step. -/
inductive Clearance (s : Share) : List HostExchange → Prop
  | plain {record : MountRecord} (hplain : s.volume.encrypted = false) :
      Clearance s [⟨.validateDevice (s.device s.volume.encrypted), .ok ()⟩,
        ⟨.mountInfo s.mountPath, .ok record⟩]
  | mapped {record : MountRecord} {passphrase : Text} (hencrypted : s.volume.encrypted)
      (hpassphrase : s.volume.passphrase = some passphrase) :
      Clearance s [⟨.validateDevice (s.device s.volume.encrypted), .ok ()⟩,
        ⟨.mountInfo s.mountPath, .ok record⟩,
        ⟨.diskFormat (s.settings.layout.rawDevice s.volume.name), .ok "crypto_LUKS"⟩,
        ⟨.resizeMapping s.volume.name s.volume.engine passphrase, .ok ()⟩]

variable {answers : (call : HostCall) → call.Answer}

theorem Clearance.permits {before : List HostExchange} (h : s.Clearance before)
    (hsteady : ∀ x ∈ before, x.answer = answers x.question) : s.Permits answers := by
  cases h with
  | plain hplain =>
    refine ⟨(hsteady _ (.head _)).symm, ⟨_, (hsteady _ (.tail _ (.head _))).symm⟩, ?_⟩
    intro hencrypted
    rw [hplain] at hencrypted
    cases hencrypted
  | mapped _ hpassphrase =>
    refine ⟨(hsteady _ (.head _)).symm, ⟨_, (hsteady _ (.tail _ (.head _))).symm⟩, fun _ => ?_⟩
    exact ⟨(hsteady _ (.tail _ (.tail _ (.head _)))).symm, _, hpassphrase,
      (hsteady _ (.tail _ (.tail _ (.tail _ (.head _))))).symm⟩

theorem Clearance.not_grows {before : List HostExchange} (h : s.Clearance before) :
    ∀ x ∈ before, ∀ device path, x.question ≠ .resizeFilesystem device path := by
  cases h <;> simp

namespace MappingCourse

variable {mapping : List HostExchange}

theorem not_grows (h : s.MappingCourse mapping result) :
    ∀ x ∈ mapping, ∀ device path, x.question ≠ .resizeFilesystem device path := by
  cases h <;> simp

theorem questions_sublist (h : s.MappingCourse mapping result) : ∃ passphrase,
    (mapping.map Exchange.question).Sublist
      [.diskFormat (s.settings.layout.rawDevice s.volume.name),
        .resizeMapping s.volume.name s.volume.engine passphrase] := by
  cases h with
  | noFormat | otherFormat | noPassphrase => exact ⟨[], List.sublist_append_left [_] [_]⟩
  | asked => exact ⟨_, List.Sublist.refl _⟩

/-- Only a growth of a mapping with every step done succeeds. -/
theorem of_ok (h : s.MappingCourse mapping (.ok ())) : ∃ passphrase,
    s.volume.passphrase = some passphrase ∧ mapping =
      [⟨.diskFormat (s.settings.layout.rawDevice s.volume.name), .ok encryptedFormat⟩,
        ⟨.resizeMapping s.volume.name s.volume.engine passphrase, .ok ()⟩] := by
  -- The result of `asked` is computed from the answer, so it cannot be matched against `ok`.
  generalize hresult : (Except.ok () : Except ShareError Unit) = r at h
  cases h with
  | noFormat | otherFormat | noPassphrase => cases hresult
  | asked answer hpassphrase =>
    cases answer with
    | error e => cases hresult
    | ok => exact ⟨_, hpassphrase, rfl⟩

/-- By answers that permit the growth, it does not fail. -/
theorem not_error (hpermits : s.Permits answers) (hencrypted : s.volume.encrypted)
    {e : ShareError} (h : s.MappingCourse mapping (.error e))
    (hsteady : ∀ x ∈ mapping, x.answer = answers x.question) : False := by
  obtain ⟨hformat, passphrase, hpassphrase, hgrown⟩ := hpermits.mapped hencrypted
  generalize hresult : (Except.error e : Except ShareError Unit) = r at h
  cases h with
  | noFormat => cases (hsteady _ (.head _)).trans hformat
  | otherFormat hother => exact hother (Except.ok.inj ((hsteady _ (.head _)).trans hformat))
  | noPassphrase hnone => cases hnone.symm.trans hpassphrase
  | asked answer hsome =>
    obtain rfl := Option.some.inj (hsome.symm.trans hpassphrase)
    obtain rfl : answer = .ok () := (hsteady _ (.tail _ (.head _))).trans hgrown
    cases hresult

end MappingCourse

namespace ResizeCourse

/-- A resize asks its questions in one order, and none of them twice. -/
theorem questions_nodup (h : s.ResizeCourse exchanges result) :
    (exchanges.map Exchange.question).Nodup := by
  have hsublist : ∃ passphrase, (exchanges.map Exchange.question).Sublist
      [.validateDevice (s.device s.volume.encrypted), .mountInfo s.mountPath,
        .diskFormat (s.settings.layout.rawDevice s.volume.name),
        .resizeMapping s.volume.name s.volume.engine passphrase,
        .resizeFilesystem (s.device s.volume.encrypted) s.mountPath] := by
    cases h with
    | notADevice => exact ⟨[], List.sublist_append_left [_] _⟩
    | notMounted => exact ⟨[], List.sublist_append_left [_, _] _⟩
    | notMapped _ _ hmapping =>
      obtain ⟨passphrase, hsub⟩ := hmapping.questions_sublist
      exact ⟨passphrase, ((hsub.trans (List.sublist_append_left _ [_])).cons_cons _).cons_cons _⟩
    | plain =>
      exact ⟨[], (((List.Sublist.refl [_]).cons _).cons _).cons_cons _ |>.cons_cons _⟩
    | mapped _ _ _ hmapping =>
      obtain ⟨passphrase, hsub⟩ := hmapping.questions_sublist
      refine ⟨passphrase, ?_⟩
      rw [List.map_cons, List.map_cons, List.map_append]
      exact ((hsub.append (List.Sublist.refl [_])).cons_cons _).cons_cons _
  obtain ⟨passphrase, hsublist⟩ := hsublist
  exact .sublist hsublist (by simp)

/-- The filesystem grows in the last step, and all before it is cleared. -/
theorem of_resizeFilesystem (h : s.ResizeCourse exchanges result) {device path : Path}
    {answer : Except HostError Bool}
    (hmem : ⟨.resizeFilesystem device path, answer⟩ ∈ exchanges) :
    device = s.device s.volume.encrypted ∧ path = s.mountPath ∧
    ∃ before, s.Clearance before ∧
      exchanges = before ++ [⟨.resizeFilesystem device path, answer⟩] := by
  cases h with
  | notADevice | notMounted => simp at hmem
  | @notMapped record mapping e _ hmapping =>
    have hmem : ⟨.resizeFilesystem device path, answer⟩ ∈ mapping := by simpa using hmem
    exact (hmapping.not_grows _ hmem _ _ rfl).elim
  | plain record other hplain =>
    obtain ⟨⟨rfl, rfl⟩, rfl⟩ : (device = _ ∧ path = _) ∧ answer = other := by simpa using hmem
    exact ⟨rfl, rfl, _, .plain hplain, rfl⟩
  | mapped record other hencrypted hmapping =>
    obtain ⟨passphrase, hpassphrase, rfl⟩ := hmapping.of_ok
    obtain ⟨⟨rfl, rfl⟩, rfl⟩ : (device = _ ∧ path = _) ∧ answer = other := by simpa using hmem
    exact ⟨rfl, rfl, _, .mapped hencrypted hpassphrase, rfl⟩

/-- If all checks go well, the filesystem grows. -/
theorem grows_of_permits (h : s.ResizeCourse exchanges result) (hpermits : s.Permits answers)
    (hsteady : ∀ x ∈ exchanges, x.answer = answers x.question) :
    ∃ device path answer, ⟨.resizeFilesystem device path, answer⟩ ∈ exchanges := by
  cases h with
  | notADevice => cases (hsteady _ (.head _)).trans hpermits.valid
  | notMounted =>
    obtain ⟨record, hmounted⟩ := hpermits.mounted
    cases (hsteady _ (.tail _ (.head _))).trans hmounted
  | notMapped _ hencrypted hmapping =>
    exact (hmapping.not_error hpermits hencrypted fun x hx => hsteady x (.tail _ (.tail _ hx))).elim
  | plain => exact ⟨_, _, _, .tail _ (.tail _ (.head _))⟩
  | mapped => exact ⟨_, _, _, .tail _ (.tail _ (List.mem_append_right _ (.head _)))⟩

/-- The filesystem grows exactly if the answers permit it. -/
theorem grows_iff (h : s.ResizeCourse exchanges result)
    (hsteady : ∀ x ∈ exchanges, x.answer = answers x.question) :
    (∃ device path answer, ⟨.resizeFilesystem device path, answer⟩ ∈ exchanges) ↔
      s.Permits answers := by
  constructor
  · rintro ⟨device, path, answer, hmem⟩
    obtain ⟨-, -, before, hbefore, rfl⟩ := h.of_resizeFilesystem hmem
    exact hbefore.permits fun x hx => hsteady x (List.mem_append_left _ hx)
  · exact fun hpermits => h.grows_of_permits hpermits hsteady

/-- Only an encrypted volume has a mapping to grow. -/
theorem encrypted_of_resizeMapping (h : s.ResizeCourse exchanges result)
    {volume passphrase : Text} {engine : DataEngine} {answer : Except HostError Unit}
    (hmem : ⟨.resizeMapping volume engine passphrase, answer⟩ ∈ exchanges) :
    s.volume.encrypted := by
  cases h with
  | notADevice | notMounted | plain => simp at hmem
  | notMapped _ hencrypted | mapped _ _ hencrypted => exact hencrypted

end ResizeCourse

end Share

/-! ## The mapping on a real host -/

/-- The call grows a mapping. -/
def KernelCall.GrowsMapping : KernelCall → Prop
  | .run c => c.program = "cryptsetup" ∧ c.arguments.head? = some "resize"
  | _ => False

namespace Share

/-- The command that looks whether the mapping is open. -/
def statusCommand (s : Share) : Command :=
  ⟨"cryptsetup", ["status", Volume.mappingName s.volume.name s.volume.engine], none,
    s.settings.commandTimeout⟩

/-- The command that grows the mapping. -/
def mappingCommand (s : Share) : Command :=
  ⟨"cryptsetup", ["resize", Volume.mappingName s.volume.name s.volume.engine],
    s.volume.passphrase, s.settings.commandTimeout⟩

/-- **A mapping is grown only right after it was found open.** -/
inductive Guarded (s : Share) : List (Exchange KernelCall.Answer) → Prop
  | nil : Guarded s []
  | other {x : Exchange KernelCall.Answer} {rest : List (Exchange KernelCall.Answer)}
      (hx : ¬ x.question.GrowsMapping) (h : Guarded s rest) : Guarded s (x :: rest)
  | grown {output : Text} {answer : Except HostError Text}
      {rest : List (Exchange KernelCall.Answer)} (h : Guarded s rest) :
      Guarded s (⟨.run s.statusCommand, .ok output⟩ :: ⟨.run s.mappingCommand, answer⟩ :: rest)

variable {s : Share} {first second calls : List (Exchange KernelCall.Answer)}

theorem Guarded.append (hfirst : s.Guarded first) (hsecond : s.Guarded second) :
    s.Guarded (first ++ second) := by
  induction hfirst with
  | nil => exact hsecond
  | other hx _ ih => exact .other hx ih
  | grown _ ih => exact .grown ih

theorem guarded_of_forall_not (h : ∀ x ∈ calls, ¬ x.question.GrowsMapping) : s.Guarded calls := by
  induction calls with
  | nil => exact .nil
  | cons x rest ih =>
    obtain ⟨hx, hrest⟩ := List.forall_mem_cons.mp h
    exact .other hx (ih hrest)

theorem not_growsMapping_of_plain {call : KernelCall} (h : call.Plain) : ¬ call.GrowsMapping := by
  cases call with
  | run c => exact fun hgrows => h.2 hgrows.1
  | _ => exact id

theorem not_growsMapping_statusCommand : ¬ (KernelCall.run s.statusCommand).GrowsMapping := by
  rintro ⟨-, hword⟩
  have hsame : Text.ofString "status" = "resize" := Option.some.inj hword
  exact absurd hsame (by decide)

/-- The step that grows the mapping looks first. -/
theorem guarded_resizeMapping {passphrase : Text}
    (hpassphrase : s.volume.passphrase = some passphrase) {rest : OnKernel (Except HostError Unit)}
    (h : (Device.resizeMapping s.volume.name s.volume.engine passphrase
      s.settings.commandTimeout).run.Leads calls rest) : s.Guarded calls := by
  have hcommand : s.mappingCommand =
      ⟨"cryptsetup", ["resize", Volume.mappingName s.volume.name s.volume.engine], some passphrase,
        s.settings.commandTimeout⟩ := by
    rw [mappingCommand, hpassphrase]
  obtain _ | ⟨status, hafter⟩ := h
  · exact .nil
  -- A failed look ends the step, so the command that grows follows a good one only.
  rcases status with e | output
  · have hnone : s.Guarded [] := .nil
    cases e <;> cases hafter <;> exact .other not_growsMapping_statusCommand hnone
  · obtain _ | ⟨answer, hgrown⟩ := hafter
    · exact .other not_growsMapping_statusCommand .nil
    · rw [← hcommand]
      cases answer <;> cases hgrown <;> exact .grown .nil

/-- Each step of a resize keeps the order. -/
theorem guarded_of_mem_resizeSteps {call : HostCall} (h : call ∈ s.resizeSteps)
    {rest : OnKernel call.Answer} (hlead : (call.perform s.settings).Leads calls rest) :
    s.Guarded calls := by
  have hplain (hcall : call.Plain) : s.Guarded calls :=
    guarded_of_forall_not fun x hx =>
      not_growsMapping_of_plain ((HostCall.perform_asks s.settings hcall).of_leads hlead x hx)
  simp only [resizeSteps, mappingSteps, List.mem_cons, List.mem_map, Option.mem_toList] at h
  rcases h with rfl | rfl | rfl | rfl | ⟨passphrase, hpassphrase, rfl⟩
  · exact hplain trivial
  · exact hplain trivial
  · exact hplain trivial
  · exact hplain trivial
  · exact guarded_resizeMapping hpassphrase hlead

/-! ## The main result -/

theorem perform_resize_leads_iff {state state' : ShareState} (hbound : state ≠ .unbound) :
    (s.perform .resize state).Leads exchanges (.done (result, state')) ↔
      s.ResizeCourse exchanges result ∧ state' = state := by
  rw [perform_resize hbound, leads_map]
  constructor
  · rintro ⟨r, hlead, heq⟩
    obtain ⟨rfl, rfl⟩ := Prod.mk.inj heq
    exact ⟨resize_leads_iff.mp hlead, rfl⟩
  · rintro ⟨hcourse, rfl⟩
    exact ⟨result, resize_leads_iff.mpr hcourse, rfl⟩

/-- **The layers grow in order, each after its checks.**  An agent with a volume, in any state of
its life, is asked to grow it.  The courses of that are known, with what the caller learns, and in
every one of them what the agent remembers stays the same.  No question is asked twice in one, so
take any host, as what it answers to each: there is one course with it, to the end.  In that course
the filesystem grows if and only if, by the answers, the device is valid, the volume is mounted and,
if the volume is encrypted, the raw device holds a mapping, there is a passphrase, and the mapping
grows.

In every course the filesystem grows in the last step and in no other, on the device and at the
mount path, right after all that went well (`Clearance`).  No mapping grows for a volume that is not
encrypted.  The host is neither asked to mount and export anything nor to undo either.

On a real host, whatever it answers and however far the agent gets, the command that grows the
mapping is run right after the one that found it open. -/
theorem layers_grow_in_order {episodes : List Episode} {state : ShareState}
    (hv : s.volume.isBound) (hlife : s.Life (.initial s.volume) episodes state) :
    (∀ exchanges result state', (s.perform .resize state).Leads exchanges (.done (result, state')) ↔
      s.ResizeCourse exchanges result ∧ state' = state) ∧
    (∀ answers : (call : HostCall) → call.Answer, ∃ exchanges result,
      (s.perform .resize state).SurelyEnds (.steady answers) [] (result, state) exchanges ∧
      ((∃ device path answer, ⟨.resizeFilesystem device path, answer⟩ ∈ exchanges) ↔
        s.Permits answers)) ∧
    (∀ exchanges result, s.ResizeCourse exchanges result →
      (exchanges.map Exchange.question).Nodup ∧
      (∀ device path answer, ⟨.resizeFilesystem device path, answer⟩ ∈ exchanges →
        device = s.device s.volume.encrypted ∧ path = s.mountPath ∧
        ∃ before, s.Clearance before ∧
          exchanges = before ++ [⟨.resizeFilesystem device path, answer⟩] ∧
          ∀ x ∈ before, ∀ other target, x.question ≠ .resizeFilesystem other target) ∧
      (∀ volume engine passphrase answer,
        ⟨.resizeMapping volume engine passphrase, answer⟩ ∈ exchanges → s.volume.encrypted) ∧
      ∀ x ∈ exchanges, x.question.Looks) ∧
    ∀ calls rest, (s.performOnKernel .resize state).Leads calls rest → s.Guarded calls := by
  have hbound : state ≠ .unbound := fun hstate => hlife.unbound_iff.mp hstate hv
  refine ⟨fun _ _ _ => perform_resize_leads_iff hbound, fun answers => ?_,
    fun exchanges result hcourse => ⟨hcourse.questions_nodup, ?_, ?_, ?_⟩, ?_⟩
  · obtain ⟨exchanges, ⟨result, state'⟩, hend⟩ :=
      exists_surelyEnds_steady answers (s.perform .resize state)
    obtain ⟨hlead, hsteady⟩ := ends_steady.mp hend.1
    obtain ⟨hcourse, rfl⟩ := (perform_resize_leads_iff hbound).mp hlead
    exact ⟨exchanges, result, hend, hcourse.grows_iff hsteady⟩
  · intro device path answer hmem
    obtain ⟨hdevice, hpath, before, hbefore, hsplit⟩ := hcourse.of_resizeFilesystem hmem
    exact ⟨hdevice, hpath, before, hbefore, hsplit, hbefore.not_grows⟩
  · exact fun _ _ _ _ => hcourse.encrypted_of_resizeMapping
  · have hlooks : (s.perform .resize state).Asks HostCall.Looks :=
      (perform_asks .resize state).mono fun _ => looks_of_mem_resizeSteps
    exact hlooks.of_leads ((perform_resize_leads_iff hbound).mpr ⟨hcourse, rfl⟩)
  · exact fun calls rest hcalls => (perform_asks .resize state).refine_leads .nil
      (fun _ _ => Guarded.append) (fun _ hstep _ _ => guarded_of_mem_resizeSteps hstep) hcalls

/-- An agent of an encrypted volume with a passphrase. -/
def locker : Share := ⟨⟨"pvc-1", .v2, true, some "secret"⟩, .standard .standard⟩

/-- The answers of its host, where the mapping grows as told. -/
def lockerAnswers (mapping : Except HostError Unit) : (call : HostCall) → call.Answer
  | .validateDevice _ => .ok ()
  | .mountInfo _ => .ok ⟨"/export/pvc-1", 64768⟩
  | .diskFormat _ => .ok "crypto_LUKS"
  | .resizeMapping _ _ _ => mapping
  | .resizeFilesystem _ _ => .ok true
  | .isMountPoint _ => .ok true
  | .mount _ _ | .unmount _ | .deleteExport _ | .reload => .ok ()
  | .deviceNumber _ => .ok 64768
  | .createExport _ => .ok 1
  | .serverRunning => true
  | .listDirectory _ => .ok ()
  | .run _ => .ok []
  | .pause _ => ()

/-- What is asked of it, to the step that grows the mapping. -/
def lockerAsked (mapping : Except HostError Unit) : List HostExchange :=
  [⟨.validateDevice "/dev/mapper/pvc-1-encrypted", .ok ()⟩,
    ⟨.mountInfo "/export/pvc-1", .ok ⟨"/export/pvc-1", 64768⟩⟩,
    ⟨.diskFormat "/dev/longhorn/pvc-1", .ok "crypto_LUKS"⟩,
    ⟨.resizeMapping "pvc-1" .v2 "secret", mapping⟩]

theorem lockerAsked_steady (mapping : Except HostError Unit) :
    ∀ x ∈ lockerAsked mapping, x.answer = lockerAnswers mapping x.question :=
  List.forall_mem_cons.mpr ⟨rfl, List.forall_mem_cons.mpr ⟨rfl, List.forall_mem_cons.mpr
    ⟨rfl, List.forall_mem_singleton.mpr rfl⟩⟩⟩

/-- **The filesystem of an encrypted volume grows after its mapping**, and not without it. -/
theorem grown_after_mapping :
    locker.volume.isBound ∧ locker.Life (.initial locker.volume) [] .unmounted ∧
    ((locker.perform .resize .unmounted).SurelyEnds (.steady (lockerAnswers (.ok ()))) []
        (.ok (), .unmounted) (lockerAsked (.ok ()) ++
          [⟨.resizeFilesystem "/dev/mapper/pvc-1-encrypted" "/export/pvc-1", .ok true⟩]) ∧
      locker.Permits (lockerAnswers (.ok ()))) ∧
    ∃ e, (locker.perform .resize .unmounted).SurelyEnds
        (.steady (lockerAnswers (.error (.invalidDevice "pvc-1-encrypted" "not open")))) []
        (.error e, .unmounted)
        (lockerAsked (.error (.invalidDevice "pvc-1-encrypted" "not open"))) ∧
      ¬ locker.Permits
        (lockerAnswers (.error (.invalidDevice "pvc-1-encrypted" "not open"))) := by
  have hv : locker.volume.isBound := by decide
  have hlife : locker.Life (.initial locker.volume) [] .unmounted := .ended _
  obtain ⟨hcourses, hhosts, -⟩ := layers_grow_in_order hv hlife
  refine ⟨hv, hlife, ?_, ?_⟩
  · obtain ⟨exchanges, result, hend, hgrows⟩ := hhosts (lockerAnswers (.ok ()))
    have hcourse : (locker.perform .resize .unmounted).Leads (lockerAsked (.ok ()) ++
        [⟨.resizeFilesystem "/dev/mapper/pvc-1-encrypted" "/export/pvc-1", .ok true⟩])
        (.done (.ok (), .unmounted)) :=
      (hcourses _ _ _).mpr
        ⟨.mapped ⟨"/export/pvc-1", 64768⟩ (.ok true) rfl (.asked (.ok ()) rfl), rfl⟩
    obtain ⟨heq, rfl⟩ := hend.eq_of_leads hcourse
      (List.forall_mem_append.mpr ⟨lockerAsked_steady _, List.forall_mem_singleton.mpr rfl⟩)
    obtain ⟨rfl, -⟩ := Prod.mk.inj heq
    exact ⟨hend, hgrows.mp ⟨_, _, _, List.mem_append_right _ (.head _)⟩⟩
  · obtain ⟨exchanges, result, hend, hgrows⟩ :=
      hhosts (lockerAnswers (.error (.invalidDevice "pvc-1-encrypted" "not open")))
    have hcourse := (hcourses _ _ _).mpr ⟨.notMapped ⟨"/export/pvc-1", 64768⟩ rfl
      (.asked (.error (.invalidDevice "pvc-1-encrypted" "not open")) rfl), rfl⟩
    obtain ⟨heq, rfl⟩ := hend.eq_of_leads hcourse (lockerAsked_steady _)
    obtain ⟨rfl, -⟩ := Prod.mk.inj heq
    refine ⟨_, hend, fun hpermits => ?_⟩
    obtain ⟨device, path, answer, hmem⟩ := hgrows.mpr hpermits
    simp at hmem

end Share
end ShareAgent
