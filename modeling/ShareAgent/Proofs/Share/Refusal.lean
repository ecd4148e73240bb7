import ShareAgent.Proofs.Share.Life
import ShareAgent.Proofs.Share.Operation

/-! # Why an operation fails

The class of a failure is decided by the step that failed and not by the error that the host gave
for it.  `Share.Fails` is the table of these decisions: which answers fail an operation, and with
which status.  `Share.Passes` are the courses in which no step fails, except attempts to unmount
that found the volume busy and were followed by a pause.

An operation succeeds exactly on the courses that pass.  It fails with a status exactly if the last
step fails with that status and all before it pass (`status_by_failing_step`), so a failing step is
the last one, and at most one class fits.
-/
namespace ShareAgent

/-- The wording of a failure, if there is one. -/
def complaint? {ε α : Type} (wording : ε → Text) : Except ε α → Option Text
  | .ok _ => none
  | .error e => some (wording e)

/-- The wording of the failure that a step was answered with. -/
def HostCall.complaint? : (call : HostCall) → call.Answer → Option Text
  | .isMountPoint _, answer => ShareAgent.complaint? HostError.message answer
  | .mountInfo _, answer => ShareAgent.complaint? HostError.message answer
  | .mount _ _, answer => ShareAgent.complaint? HostError.message answer
  | .unmount _, answer => ShareAgent.complaint? HostError.message answer
  | .validateDevice _, answer => ShareAgent.complaint? HostError.message answer
  | .deviceNumber _, answer => ShareAgent.complaint? HostError.message answer
  | .diskFormat _, answer => ShareAgent.complaint? HostError.message answer
  | .resizeFilesystem _ _, answer => ShareAgent.complaint? HostError.message answer
  | .resizeMapping _ _ _, answer => ShareAgent.complaint? HostError.message answer
  | .createExport _, answer => ShareAgent.complaint? HostError.message answer
  | .deleteExport _, answer => ShareAgent.complaint? HostError.message answer
  | .reload, answer => ShareAgent.complaint? HostError.message answer
  | .serverRunning, _ => none
  | .listDirectory _, answer => ShareAgent.complaint? SystemError.message answer
  | .run _, answer => ShareAgent.complaint? HostError.message answer
  | .pause _, _ => none

/-- A call whose answer can fail an operation although the host did what was asked. -/
def HostCall.Decides : HostCall → Prop
  | .diskFormat _ | .deviceNumber _ | .isMountPoint _ => True
  | _ => False

/-- A call that looks whether a device is valid. -/
def HostCall.Validates : HostCall → Prop
  | .validateDevice _ => True
  | _ => False

/-- The operation works on the device of the volume. -/
def Operation.UsesDevice : Operation → Prop
  | .resize | .trim _ => True
  | .mount | .unmount => False

namespace Share
open Dialogue Surroundings

/-- `s.Fails op before x code`: after the steps `before`, the step `x` fails the operation with this
status. -/
inductive Fails (s : Share) :
    Operation → List HostExchange → HostExchange → StatusCode → Prop
  /-- The device is not valid. -/
  | notADevice {op : Operation} {before : List HostExchange} {device : Path} {e : HostError}
      (hop : op.UsesDevice) :
      Fails s op before ⟨.validateDevice device, .error e⟩ .failedPrecondition
  /-- The volume is encrypted, and so is its raw device, but there is no passphrase. -/
  | noPassphrase {before : List HostExchange} (hencrypted : s.volume.encrypted)
      (hnone : s.volume.passphrase = none) :
      Fails s .resize before
        ⟨.diskFormat (s.settings.layout.rawDevice s.volume.name), .ok encryptedFormat⟩
        .failedPrecondition
  /-- The volume is encrypted, but its raw device holds something else. -/
  | otherFormat {before : List HostExchange} {format : Text} (hencrypted : s.volume.encrypted)
      (hformat : format ≠ encryptedFormat) :
      Fails s .resize before
        ⟨.diskFormat (s.settings.layout.rawDevice s.volume.name), .ok format⟩ .invalidArgument
  /-- The filesystem that was just found mounted is on another device. -/
  | otherDevice {encryptedDevice : Bool} {before : List HostExchange} {record : MountRecord}
      {number : Nat} (hrecord : before.getLast? = some ⟨.mountInfo s.mountPath, .ok record⟩)
      (hnumber : record.deviceNumber ≠ number) :
      Fails s (.trim encryptedDevice) before
        ⟨.deviceNumber (s.device encryptedDevice), .ok number⟩ .invalidArgument
  /-- There is nothing mounted to be trimmed. -/
  | notMounted {encryptedDevice : Bool} {before : List HostExchange} :
      Fails s (.trim encryptedDevice) before ⟨.isMountPoint s.mountPath, .ok false⟩
        .invalidArgument
  /-- Every other step fails if the host says so, whatever the host's reason is. -/
  | step {op : Operation} {before : List HostExchange} {call : HostCall} {answer : call.Answer}
      {complaint : Text} (hcall : ∀ device, call ≠ .validateDevice device)
      (hfailed : call.complaint? answer = some complaint) :
      Fails s op before ⟨call, answer⟩ .internal

/-- An attempt to unmount that found the volume busy. -/
inductive Busy (s : Share) : HostExchange → Prop
  | looking {e : HostError} (he : e.isBusy) : Busy s ⟨.isMountPoint s.mountPath, .error e⟩
  | unmounting {e : HostError} (he : e.isBusy) : Busy s ⟨.unmount s.mountPath, .error e⟩

/-- Steps of an operation of which none fails it. -/
inductive Passes (s : Share) (op : Operation) : List HostExchange → Prop
  | start : Passes s op []
  | step {before : List HostExchange} {x : HostExchange} (h : Passes s op before)
      (hx : ∀ code, ¬ s.Fails op before x code) : Passes s op (before ++ [x])
  /-- A busy volume is tried again after a pause. -/
  | retry {before : List HostExchange} {x : HostExchange} {span : Span} (h : Passes s op before)
      (hop : op = .unmount) (hx : s.Busy x) : Passes s op (before ++ [x] ++ [⟨.pause span, ()⟩])

/-- The course of an operation that failed: the last step fails it with the status, whose message
ends with what the host said, and all steps before pass. -/
def Refuses (s : Share) (op : Operation) (exchanges : List HostExchange) (status : Status) : Prop :=
  ∃ before x, exchanges = before ++ [x] ∧ s.Passes op before ∧ s.Fails op before x status.code ∧
    ∀ complaint, x.question.complaint? x.answer = some complaint → complaint <:+ status.message

variable {s : Share} {op : Operation} {before past : List HostExchange} {x : HostExchange}
  {code code' : StatusCode} {α β ε : Type}

/-! ## The table -/

/-- A step fails an operation with at most one status. -/
theorem Fails.unique (h : s.Fails op before x code) (h' : s.Fails op before x code') :
    code = code' := by
  cases h with
  | notADevice =>
    cases h' with
    | notADevice => rfl
    | step hcall => exact (hcall _ rfl).elim
  | noPassphrase =>
    cases h' with
    | noPassphrase => rfl
    | otherFormat _ hformat => exact (hformat rfl).elim
    | step _ hfailed => cases hfailed
  | otherFormat _ hformat =>
    cases h' with
    | noPassphrase => exact (hformat rfl).elim
    | otherFormat => rfl
    | step _ hfailed => cases hfailed
  | otherDevice =>
    cases h' with
    | otherDevice => rfl
    | step _ hfailed => cases hfailed
  | notMounted =>
    cases h' with
    | notMounted => rfl
    | step _ hfailed => cases hfailed
  | step hcall hfailed =>
    cases h' with
    | notADevice => exact (hcall _ rfl).elim
    | step => rfl
    | noPassphrase | otherFormat | otherDevice | notMounted => cases hfailed

/-- A step that was done, and whose answer is not looked at, fails nothing. -/
theorem not_fails_of_done {call : HostCall} {answer : call.Answer} (hcall : ¬ call.Decides)
    (hdone : call.complaint? answer = none) : ¬ s.Fails op before ⟨call, answer⟩ code := by
  intro h
  cases h with
  | notADevice => cases hdone
  | noPassphrase | otherFormat | otherDevice | notMounted => exact hcall trivial
  | step _ hfailed => cases hfailed.symm.trans hdone

/-- Only trimming minds that nothing is mounted. -/
theorem not_fails_looking {path : Path} {mounted : Bool} (hop : ∀ e, op ≠ .trim e) :
    ¬ s.Fails op before ⟨.isMountPoint path, .ok mounted⟩ code := by
  intro h
  cases h with
  | notMounted => exact hop _ rfl
  | step _ hfailed => cases hfailed

theorem not_fails_pause {span : Span} : ¬ s.Fails op before ⟨.pause span, ()⟩ code :=
  not_fails_of_done id rfl

/-- The last of the steps that pass fails nothing. -/
theorem Passes.not_fails (h : s.Passes op (before ++ [x])) : ¬ s.Fails op before x code := by
  generalize hall : before ++ [x] = exchanges at h
  cases h with
  | start => simp at hall
  | step _ hx =>
    obtain ⟨rfl, hlast⟩ := List.append_inj' hall rfl
    obtain rfl := List.singleton_inj.mp hlast
    exact hx code
  | retry =>
    obtain ⟨rfl, hlast⟩ := List.append_inj' hall rfl
    obtain rfl := List.singleton_inj.mp hlast
    exact not_fails_pause

theorem Passes.done {call : HostCall} {answer : call.Answer} (h : s.Passes op past)
    (hcall : ¬ call.Decides) (hdone : call.complaint? answer = none) :
    s.Passes op (past ++ [⟨call, answer⟩]) :=
  h.step fun _ => not_fails_of_done hcall hdone

/-! ## One step after the other -/

/-- What a part of an operation comes to: it ends after steps that pass, or it fails as the table
says. -/
def Judged (s : Share) (op : Operation) :
    Except ShareError α → List HostExchange → Prop
  | .ok _, now => s.Passes op now
  | .error e, now => s.Refuses op now (.ofShareError e)

/-- A part of an operation is judged by the table wherever it comes after steps that pass. -/
def Judges (s : Share) (op : Operation) (d : ExceptT ShareError OnHost α) : Prop :=
  ∀ past, s.Passes op past → d.run.Always recorder (fun _ => True) (s.Judged op) past

theorem judges_pure (a : α) : s.Judges op (pure a) := fun _ hpast => hpast

theorem Judges.bind {d : ExceptT ShareError OnHost α} {f : α → ExceptT ShareError OnHost β}
    (hd : s.Judges op d) (hf : ∀ a, s.Judges op (f a)) : s.Judges op (d >>= f) := by
  intro past hpast
  refine always_run_bind.mpr ((hd past hpast).imp ?_)
  rintro (e | a) now hnow
  · exact hnow
  · exact hf a now hnow

theorem always_call (call : HostCall) {goal : call.Answer → List HostExchange → Prop}
    (h : ∀ answer, goal answer (past ++ [⟨call, answer⟩])) :
    call.onHost.Always recorder (fun _ => True) goal past := by
  rintro answer _ rfl
  exact ⟨trivial, h answer⟩

/-- A failed step whose cause is named last. -/
theorem Passes.refuses {call : HostCall} {answer : call.Answer} {task complaint : Text}
    (h : s.Passes op past) (hcall : ¬ call.Validates)
    (hfailed : call.complaint? answer = some complaint) :
    s.Refuses op (past ++ [⟨call, answer⟩]) (.ofShareError (.internal task complaint)) := by
  have hother : ∀ device, call ≠ .validateDevice device := by
    rintro device rfl
    exact hcall trivial
  refine ⟨past, _, rfl, h, .step hother hfailed, ?_⟩
  intro complaint' hcomplaint
  obtain rfl := Option.some.inj (hfailed.symm.trans hcomplaint)
  exact List.suffix_append _ _

/-- A step that was done, and whose answer fails the operation. -/
theorem Passes.refuses_of_done {call : HostCall} {answer : call.Answer} {e : ShareError}
    (h : s.Passes op past)
    (hfails : s.Fails op past ⟨call, answer⟩ (Status.ofShareError e).code)
    (hdone : call.complaint? answer = none) :
    s.Refuses op (past ++ [⟨call, answer⟩]) (.ofShareError e) := by
  refine ⟨past, _, rfl, h, hfails, ?_⟩
  intro complaint hcomplaint
  cases hdone.symm.trans hcomplaint

/-- A step, and what comes after it if it is done. -/
theorem always_orFail_bind {blame : ε → ShareError} {step : OnHost (Except ε α)}
    {next : α → ExceptT ShareError OnHost β}
    {goal : Except ShareError β → List HostExchange → Prop} :
    (orFail blame step >>= next).run.Always recorder (fun _ => True) goal past ↔
      step.Always recorder (fun _ => True) (fun
        | .ok a, now => (next a).run.Always recorder (fun _ => True) goal now
        | .error e, now => goal (.error (blame e)) now) past := by
  rw [always_run_bind, always_orFail]
  refine iff_of_eq (congrArg (fun goal => step.Always recorder (fun _ => True) goal past) ?_)
  funext answer now
  cases answer <;> rfl

/-- One step of an operation, recorded as `x`. -/
theorem judges_orFail {blame : ε → ShareError} {step : OnHost (Except ε α)}
    (x : Except ε α → HostExchange)
    (hstep : ∀ {goal past}, (∀ answer, goal answer (past ++ [x answer])) →
      step.Always recorder (fun _ => True) goal past)
    (herror : ∀ {past} e, s.Passes op past →
      s.Refuses op (past ++ [x (.error e)]) (.ofShareError (blame e)))
    (hok : ∀ {past} a, s.Passes op past → s.Passes op (past ++ [x (.ok a)])) :
    s.Judges op (orFail blame step) := by
  intro past hpast
  refine always_orFail.mpr (hstep ?_)
  rintro (e | a)
  · exact herror e hpast
  · exact hok a hpast

/-- A step that fails the operation if the host says so, and only then. -/
theorem judges_step {task : Text} {wording : ε → Text} {step : OnHost (Except ε α)}
    (x : Except ε α → HostExchange)
    (hstep : ∀ {goal past}, (∀ answer, goal answer (past ++ [x answer])) →
      step.Always recorder (fun _ => True) goal past)
    (hcall : ∀ answer, ¬ (x answer).question.Validates ∧ ¬ (x answer).question.Decides)
    (hsaid : ∀ answer, (x answer).question.complaint? (x answer).answer =
      ShareAgent.complaint? wording answer) :
    s.Judges op (orFail (fun e => .internal task (wording e)) step) :=
  judges_orFail x hstep (fun e h => h.refuses (hcall _).1 (hsaid (.error e)))
    fun a h => h.done (hcall _).2 (hsaid (.ok a))

/-! ## Mounting -/

theorem reload_judges {task : Text} :
    s.Judges op (orFail (failed task) HostCall.reload.onHost) :=
  judges_step (fun answer => ⟨.reload, answer⟩) (always_call .reload)
    (fun _ => ⟨not_false, not_false⟩) fun _ => rfl

theorem publish_judges : s.Judges op s.publish := by
  refine Judges.bind ?_ fun _ => reload_judges
  exact judges_step (fun answer => ⟨.createExport s.volume.name, answer⟩)
    (always_call (.createExport s.volume.name)) (fun _ => ⟨not_false, not_false⟩) fun _ => rfl

theorem ensureMounted_judges : s.Judges .mount s.ensureMounted := by
  refine Judges.bind ?_ fun mounted => ?_
  · exact judges_orFail (fun answer => ⟨.isMountPoint s.mountPath, answer⟩)
      (always_call (.isMountPoint s.mountPath)) (fun _ h => h.refuses not_false rfl)
      (fun _ h => h.step fun _ => not_fails_looking nofun)
  · cases mounted with
    | true => exact judges_pure ()
    | false =>
      exact judges_step (fun answer => ⟨.mount (s.device false) s.mountPath, answer⟩)
        (always_call (.mount (s.device false) s.mountPath)) (fun _ => ⟨not_false, not_false⟩)
        fun _ => rfl

theorem mountAndExport_judges : s.Judges .mount s.mountAndExport :=
  ensureMounted_judges.bind fun _ => publish_judges

/-! ## Unmounting -/

theorem withdraw_judges : s.Judges op s.withdraw := by
  refine Judges.bind ?_ fun _ => reload_judges
  exact judges_step (fun answer => ⟨.deleteExport s.volume.name, answer⟩)
    (always_call (.deleteExport s.volume.name)) (fun _ => ⟨not_false, not_false⟩) fun _ => rfl

/-- What one attempt to unmount, or several, come to: they pass, or the last step failed. -/
def Attempted (s : Share) : Except HostError Unit → List HostExchange → Prop
  | .ok _, now => s.Passes .unmount now
  | .error e, now => ∃ before x, now = before ++ [x] ∧ s.Passes .unmount before ∧
      (x = ⟨.isMountPoint s.mountPath, .error e⟩ ∨ x = ⟨.unmount s.mountPath, .error e⟩)

theorem unmountOnce_attempted (h : s.Passes .unmount past) :
    (unmountOnce s.mountPath).Always recorder (fun _ => True) s.Attempted past := by
  rintro (e | mounted) _ rfl
  · exact ⟨trivial, past, _, rfl, h, .inl rfl⟩
  have hlook : s.Passes .unmount (past ++ [⟨.isMountPoint s.mountPath, .ok mounted⟩]) :=
    h.step fun _ => not_fails_looking nofun
  refine ⟨trivial, ?_⟩
  cases mounted with
  | false => exact hlook
  | true =>
    rintro (e | ⟨⟩) _ rfl
    · exact ⟨trivial, _, _, rfl, hlook, .inr rfl⟩
    · exact ⟨trivial, hlook.done not_false rfl⟩

theorem unmountRetrying_attempted (interval : Span) (retries : Nat) (h : s.Passes .unmount past) :
    (unmountRetrying s.mountPath interval retries).Always recorder (fun _ => True)
      s.Attempted past := by
  induction retries generalizing past with
  | zero => exact unmountOnce_attempted h
  | succ retries ih =>
    rw [unmountRetrying, always_bind]
    refine (unmountOnce_attempted h).imp ?_
    rintro (e | ⟨⟩) now hnow
    · by_cases hbusy : e.isBusy
      · simp only [hbusy, if_true]
        obtain ⟨before, x, rfl, hbefore, hx⟩ := hnow
        have hbusy' : s.Busy x := by
          rcases hx with rfl | rfl
          · exact .looking hbusy
          · exact .unmounting hbusy
        rintro ⟨⟩ _ rfl
        exact ⟨trivial, ih (hbefore.retry rfl hbusy')⟩
      · simp only [hbusy]
        exact hnow
    · exact hnow

theorem unexportAndUnmount_judges : s.Judges .unmount s.unexportAndUnmount := by
  refine withdraw_judges.bind fun _ past hpast => ?_
  refine always_orFail.mpr ((unmountRetrying_attempted _ _ hpast).imp ?_)
  rintro (e | ⟨⟩) now hnow
  · obtain ⟨before, x, rfl, hbefore, rfl | rfl⟩ := hnow
    · exact hbefore.refuses not_false rfl
    · exact hbefore.refuses not_false rfl
  · exact hnow

/-! ## Growing and trimming -/

theorem validate_judges (hop : op.UsesDevice) (device : Path) :
    s.Judges op (s.validate device) := by
  refine judges_orFail (fun answer => ⟨.validateDevice device, answer⟩)
    (always_call (.validateDevice device)) (fun e h => ?_) (fun _ h => h.done not_false rfl)
  refine ⟨_, _, rfl, h, .notADevice hop, ?_⟩
  rintro _ ⟨⟩
  exact List.suffix_append _ _

theorem mounted_judges : s.Judges op s.mounted :=
  judges_step (fun answer => ⟨.mountInfo s.mountPath, answer⟩)
    (always_call (.mountInfo s.mountPath)) (fun _ => ⟨not_false, not_false⟩) fun _ => rfl

theorem grow_judges : s.Judges op s.grow := by
  refine Judges.bind ?_ fun _ => judges_pure ()
  exact judges_step
    (fun answer => ⟨.resizeFilesystem (s.device s.volume.encrypted) s.mountPath, answer⟩)
    (always_call (.resizeFilesystem (s.device s.volume.encrypted) s.mountPath))
    (fun _ => ⟨not_false, not_false⟩) fun _ => rfl

/-- The format decides, and then whether there is a passphrase. -/
theorem resizeMapping_judges (hencrypted : s.volume.encrypted) :
    s.Judges .resize s.resizeMapping := by
  intro past hpast
  refine always_orFail_bind.mpr
    (always_call (.diskFormat (s.settings.layout.rawDevice s.volume.name)) ?_)
  rintro (e | format)
  · exact hpast.refuses not_false rfl
  by_cases hformat : format ≠ encryptedFormat
  · simp only [if_pos hformat]
    exact hpast.refuses_of_done (.otherFormat hencrypted hformat) rfl
  simp only [if_neg hformat]
  obtain rfl : format = encryptedFormat := Decidable.not_not.mp hformat
  cases hpassphrase : s.volume.passphrase with
  | none => exact hpast.refuses_of_done (.noPassphrase hencrypted hpassphrase) rfl
  | some passphrase =>
    have hlook : s.Passes .resize (past ++
        [⟨.diskFormat (s.settings.layout.rawDevice s.volume.name), .ok encryptedFormat⟩]) := by
      refine hpast.step fun code hfails => ?_
      cases hfails with
      | noPassphrase _ hnone => simp [hpassphrase] at hnone
      | otherFormat _ hne => exact hne rfl
      | step _ hfailed => cases hfailed
    refine always_orFail.mpr
      (always_call (.resizeMapping s.volume.name s.volume.engine passphrase) ?_)
    rintro (e | ⟨⟩)
    · exact hlook.refuses not_false rfl
    · exact hlook.done not_false rfl

theorem resize_judges : s.Judges .resize s.resize := by
  have hvalid : s.Judges .resize (s.validate (s.device s.volume.encrypted)) := by
    apply validate_judges
    trivial
  refine hvalid.bind fun _ => mounted_judges.bind fun _ => ?_
  cases hencrypted : s.volume.encrypted with
  | false => exact grow_judges
  | true => exact (resizeMapping_judges hencrypted).bind fun _ => grow_judges

/-- The number of the device decides, compared with the record that was found just before. -/
theorem expectDevice_judges (encryptedDevice : Bool) :
    s.Judges (.trim encryptedDevice) (s.expectDevice (s.device encryptedDevice)) := by
  intro past hpast
  refine always_orFail_bind.mpr (always_call (.mountInfo s.mountPath) ?_)
  rintro (e | record)
  · exact hpast.refuses not_false rfl
  have hfound : s.Passes (.trim encryptedDevice) (past ++ [⟨.mountInfo s.mountPath, .ok record⟩]) :=
    hpast.done not_false rfl
  refine always_orFail_bind.mpr (always_call (.deviceNumber (s.device encryptedDevice)) ?_)
  rintro (e | number)
  · exact hfound.refuses not_false rfl
  by_cases hnumber : record.deviceNumber ≠ number
  · simp only [if_pos hnumber]
    exact hfound.refuses_of_done (.otherDevice List.getLast?_concat hnumber) rfl
  · simp only [if_neg hnumber]
    refine hfound.step fun code hfails => ?_
    cases hfails with
    | otherDevice hrecord hne =>
      obtain ⟨⟩ := Option.some.inj (List.getLast?_concat.symm.trans hrecord)
      exact hnumber hne
    | step _ hfailed => cases hfailed

theorem expectMounted_judges (encryptedDevice : Bool) :
    s.Judges (.trim encryptedDevice) s.expectMounted := by
  intro past hpast
  refine always_orFail_bind.mpr (always_call (.isMountPoint s.mountPath) ?_)
  rintro (e | _ | _)
  · exact hpast.refuses not_false rfl
  · exact hpast.refuses_of_done .notMounted rfl
  have hlook : s.Passes (.trim encryptedDevice)
      (past ++ [⟨.isMountPoint s.mountPath, .ok true⟩]) := by
    refine hpast.step fun code hfails => ?_
    cases hfails with
    | step _ hfailed => cases hfailed
  refine always_orFail.mpr (always_call (.listDirectory s.mountPath) ?_)
  rintro (e | ⟨⟩)
  · exact hlook.refuses not_false rfl
  · exact hlook.done not_false rfl

theorem trim_judges (encryptedDevice : Bool) :
    s.Judges (.trim encryptedDevice) (s.trim encryptedDevice) := by
  have hvalid : s.Judges (.trim encryptedDevice) (s.validate (s.device encryptedDevice)) := by
    apply validate_judges
    trivial
  refine hvalid.bind fun _ => (expectDevice_judges encryptedDevice).bind fun _ =>
    (expectMounted_judges encryptedDevice).bind fun _ => Judges.bind ?_ fun _ => judges_pure ()
  exact judges_step (fun answer => ⟨.run s.trimCommand, answer⟩)
    (always_call (.run s.trimCommand)) (fun _ => ⟨not_false, not_false⟩) fun _ => rfl

/-! ## Whole operations -/

variable {state state' : ShareState} {exchanges : List HostExchange}
  {result : Except ShareError Unit}

/-- **Every operation is judged by the table**, whatever the host answers. -/
theorem perform_judged (op : Operation) (state : ShareState) :
    (s.perform op state).Always recorder (fun _ => True) (fun r now => s.Judged op r.1 now) [] := by
  by_cases hbound : state = .unbound
  · rw [hbound, perform_unbound]
    exact .start
  -- Whether the server runs fails nothing.
  have hasked (running : Bool) : s.Passes op ([] ++ [⟨.serverRunning, running⟩]) :=
    Passes.start.done not_false rfl
  cases op with
  | mount =>
    cases state with
    | unbound => exact (hbound rfl).elim
    | exported =>
      rw [perform_mount_exported]
      rintro running _ rfl
      exact ⟨trivial, hasked running⟩
    | unmounted =>
      rw [perform_mount_unmounted]
      rintro running _ rfl
      refine ⟨trivial, ?_⟩
      cases running with
      | false => exact hasked false
      | true =>
        refine always_bind.mpr ((mountAndExport_judges _ (hasked true)).imp ?_)
        rintro (e | ⟨⟩) now hnow
        · exact hnow
        · exact hnow
  | unmount =>
    rw [perform_unmount hbound]
    rintro running _ rfl
    refine ⟨trivial, ?_⟩
    cases running with
    | false => exact hasked false
    | true => exact always_bind.mpr (unexportAndUnmount_judges _ (hasked true))
  | resize =>
    rw [perform_resize hbound]
    exact always_bind.mpr (resize_judges [] .start)
  | trim encryptedDevice =>
    rw [perform_trim hbound]
    exact always_bind.mpr (trim_judges encryptedDevice [] .start)

/-- Steps that pass do not also fail. -/
theorem Refuses.not_passes {status : Status} (h : s.Refuses op exchanges status) :
    ¬ s.Passes op exchanges := by
  obtain ⟨before, x, rfl, -, hfails, -⟩ := h
  exact fun hpasses => hpasses.not_fails hfails

/-- Mounting and unmounting have no other failures than those that the host reports. -/
theorem Fails.eq_internal (h : s.Fails op before x code) (hop : op = .mount ∨ op = .unmount) :
    code = .internal := by
  cases h with
  | notADevice hdevice => rcases hop with rfl | rfl <;> exact hdevice.elim
  | noPassphrase | otherFormat | otherDevice | notMounted => rcases hop with h | h <;> cases h
  | step => rfl

/-- **The status of a failed operation is decided by the step that failed**, and not by the error
that the host gave for it.  A remote caller is told of success exactly if the operation succeeded,
which is so exactly if all steps pass; a status exactly if the last step fails with it and all
steps before it pass, so that nothing is done after a failing step.  The message ends with what the
host said.  Mounting and unmounting have no other status than `internal`. -/
theorem status_by_failing_step {reply : Except Status Unit}
    (hlead : (s.serve op state).Leads exchanges (.done (reply, state'))) :
    (∃ result, (s.perform op state).Leads exchanges (.done (result, state')) ∧
      (reply = .ok () ↔ result = .ok ())) ∧
    (reply = .ok () ↔ s.Passes op exchanges) ∧
    (∀ code, (∃ message, reply = .error ⟨code, message⟩) ↔
      ∃ before x, exchanges = before ++ [x] ∧ s.Passes op before ∧ s.Fails op before x code) ∧
    (∀ status, reply = .error status → s.Refuses op exchanges status) ∧
    (op = .mount ∨ op = .unmount → ∀ status, reply = .error status → status.code = .internal) := by
  obtain ⟨⟨result, state''⟩, hperform, heq⟩ := leads_map.mp hlead
  obtain ⟨rfl, rfl⟩ := Prod.mk.inj heq
  have hjudged : s.Judged op result exchanges := (perform_judged op state).of_recorder hperform
  cases result with
  | ok a =>
    refine ⟨⟨_, hperform, iff_of_true rfl rfl⟩, iff_of_true rfl hjudged, fun code => ?_, nofun, ?_⟩
    · refine iff_of_false nofun ?_
      rintro ⟨before, x, rfl, -, hfails⟩
      exact hjudged.not_fails hfails
    · exact fun _ => nofun
  | error e =>
    have hrefuses : s.Refuses op exchanges (.ofShareError e) := hjudged
    refine ⟨⟨_, hperform, iff_of_false nofun nofun⟩, iff_of_false nofun hrefuses.not_passes,
      fun code => ⟨?_, ?_⟩, ?_, ?_⟩
    · rintro ⟨message, hreply⟩
      obtain ⟨before, x, rfl, hbefore, hfails, -⟩ := hrefuses
      rw [Except.error.inj hreply] at hfails
      exact ⟨before, x, rfl, hbefore, hfails⟩
    · rintro ⟨before, x, rfl, -, hfails⟩
      obtain ⟨before', x', hsplit, -, hfails', -⟩ := hrefuses
      obtain ⟨rfl, hlast⟩ := List.append_inj' hsplit rfl
      obtain rfl := List.singleton_inj.mp hlast
      obtain rfl := hfails.unique hfails'
      exact ⟨_, rfl⟩
    · rintro status hreply
      obtain rfl := Except.error.inj hreply
      exact hrefuses
    · rintro hop status hreply
      obtain rfl := Except.error.inj hreply
      obtain ⟨before, x, -, -, hfails, -⟩ := hrefuses
      exact hfails.eq_internal hop

/-- An unmount that finds the volume busy, waits, and then fails with an error about a device. -/
def stubborn : List HostExchange :=
  [⟨.serverRunning, true⟩, ⟨.deleteExport sample.volume.name, .ok ()⟩, ⟨.reload, .ok ()⟩,
    ⟨.isMountPoint sample.mountPath, .ok true⟩,
    ⟨.unmount sample.mountPath, .error (.busy sample.mountPath)⟩,
    ⟨.pause sample.settings.unmountRetryInterval, ()⟩,
    ⟨.isMountPoint sample.mountPath, .ok true⟩,
    ⟨.unmount sample.mountPath, .error (.invalidDevice sample.mountPath "gone")⟩]

/-- What the remote caller learns of it. -/
def stubbornStatus : Status :=
  ⟨.internal, "failed to unmount /export/pvc-1: Invalid block device /export/pvc-1: gone"⟩

/-- That is an internal failure all the same. -/
theorem stubborn_status :
    (sample.serve .unmount .exported).Leads stubborn (.done (.error stubbornStatus, .unmounted)) ∧
      sample.Refuses .unmount stubborn stubbornStatus ∧ stubbornStatus.code = .internal := by
  have hlead : (sample.serve .unmount .exported).Leads stubborn
      (.done (.error stubbornStatus, .unmounted)) :=
    leads_ask.mpr (leads_ask.mpr (leads_ask.mpr (leads_ask.mpr (leads_ask.mpr (leads_ask.mpr
      (leads_ask.mpr (leads_ask.mpr (.here _))))))))
  obtain ⟨-, -, -, hrefuses, hinternal⟩ := status_by_failing_step hlead
  exact ⟨hlead, hrefuses _ rfl, hinternal (.inr rfl) _ rfl⟩

end Share
end ShareAgent
