import ShareAgent.Proofs.Agent.Unmounting
import ShareAgent.Proofs.Mount.Formatting
import ShareAgent.Proofs.Share.Recollection
import ShareAgent.Proofs.Text.Numeral

/-! # Which device is trimmed

Discarding blocks on the wrong device destroys data, so the agent looks before it trims: at the
device, at the mount table and at the directory.  On a host that stands still while it looks
(`Still`), `fstrim` is run exactly if the last filesystem on the mount path has the number of the
device, and if all else is as it should be (`trims_expected_device`).

A number is compared as a whole.  That is as good as comparing both its parts, since two words with
the same major and the same minor number are one (`DeviceNumber.eq_of_major_minor`) and all numbers
of the mount table are words (`Mount.number_of_mem_readTable`).
-/
namespace ShareAgent
open Dialogue

/-! ## The numbers of the mount table -/

namespace Mount

/-- The number of a field has the major and the minor number that are written in it. -/
theorem readDeviceNumber_eq_some {field : Text} {number : Nat}
    (h : readDeviceNumber field = some number) : ∃ major minor,
      Text.cut ':' field = some (major, minor) ∧
      Numeral.readWord 32 major = .ok (DeviceNumber.major number) ∧
      Numeral.readWord 32 minor = .ok (DeviceNumber.minor number) ∧ number < UInt64.size := by
  obtain ⟨⟨major, minor⟩, hcut, h⟩ := Option.bind_eq_some_iff.mp h
  obtain ⟨a, hmajor, h⟩ := Option.bind_eq_some_iff.mp h
  obtain ⟨b, hminor, h⟩ := Option.bind_eq_some_iff.mp h
  obtain rfl := Option.some.inj h
  replace hmajor := Numeral.toOption_eq_some_iff.mp hmajor
  replace hminor := Numeral.toOption_eq_some_iff.mp hminor
  have ha : a < 0x100000000 := Numeral.readWord_lt hmajor
  have hb : b < 0x100000000 := Numeral.readWord_lt hminor
  refine ⟨major, minor, hcut, ?_, ?_, DeviceNumber.make_lt ha hb⟩
  · rw [hmajor, DeviceNumber.major_make ha hb]
  · rw [hminor, DeviceNumber.minor_make hb]

/-- **The record of a line has the numbers of its third field.** -/
theorem readLine_eq_some {line : Text} {record : MountRecord} (h : readLine line = some record) :
    ∃ front back one two field others, Text.cutAt " - " line = some (front, back) ∧
      Text.words front = one :: two :: field :: others ∧
      readDeviceNumber field = some record.deviceNumber := by
  unfold readLine at h
  cases hcut : Text.cutAt " - " line with
  | none =>
    rw [hcut] at h
    cases h
  | some parts =>
    obtain ⟨front, back⟩ := parts
    rw [hcut] at h
    dsimp only at h
    split at h
    · rename_i hfront hback
      obtain ⟨number, hnumber, rfl⟩ := Option.map_eq_some_iff.mp h
      exact ⟨front, back, _, _, _, _, rfl, hfront, hnumber⟩
    · cases h

/-- All numbers of a mount table are words. -/
theorem number_of_mem_readTable {table : Text} {record : MountRecord}
    (h : record ∈ readTable table) : record.deviceNumber < UInt64.size := by
  obtain ⟨line, -, hline⟩ := List.mem_filterMap.mp h
  obtain ⟨_, _, _, _, _, _, _, _, hnumber⟩ := readLine_eq_some hline
  obtain ⟨_, _, _, _, _, hword⟩ := readDeviceNumber_eq_some hnumber
  exact hword

end Mount

/-! ## A host that stands still -/

/-- **A host that stands still**: what it tells about files, about the mount table and about
directories is the same whenever it is asked. -/
structure Still where
  status : Path → Except SystemError FileStatus
  place : Path → Except SystemError Path
  table : Except SystemError Bytes
  listing : Path → Except SystemError (List Text)
  /-- The number of a device is a word. -/
  word : ∀ path found, status path = .ok found → found.deviceNumber < UInt64.size

namespace Still

/-- What the host tells.  All other calls may be answered in any way. -/
def Tells (k : Still) : (call : KernelCall) → call.Answer → Prop
  | .fileStatus path, answer => answer = k.status path
  | .resolve path, answer => answer = k.place path
  | .mountTable, answer => answer = k.table
  | .listDirectory path, answer => answer = k.listing path
  | _, _ => True

/-- These are the records of the mount table, which is read. -/
def Reads (k : Still) (records : List MountRecord) : Prop :=
  ∃ octets table, k.table = .ok octets ∧ Mount.asText octets = .ok table ∧
    Mount.readTable table = records

/-- The record is the last one in the mount table for the place that the path leads to. -/
def LastOn (k : Still) (path : Path) (record : MountRecord) : Prop :=
  ∃ place records, k.place path = .ok place ∧ k.Reads records ∧
    (records.filter (·.mountPoint.same place)).getLast? = some record

/-- **All is as it should be**: the device is a block device, the last filesystem on the mount path
is on it, and the mount path is a directory. -/
structure Expects (k : Still) (s : Share) (device : Path) : Prop where
  mounted : ∃ found record, k.status device = .ok found ∧ found.kind = .blockDevice ∧
    k.LastOn s.mountPath record ∧
    DeviceNumber.major record.deviceNumber = DeviceNumber.major found.deviceNumber ∧
    DeviceNumber.minor record.deviceNumber = DeviceNumber.minor found.deviceNumber
  listed : ∃ names, k.listing s.mountPath = .ok names

/-- Surroundings that tell this, and that keep the commands they run. -/
def Answers (k : Still) : Surroundings KernelCall.Answer (List Command) :=
  fun call ran answer ran' => k.Tells call answer ∧ ran' = ran ++ Mount.commands [⟨call, answer⟩]

variable {k : Still} {ran : List Command} {path device : Path}

theorem follows_answers {exchanges : List (Exchange KernelCall.Answer)}
    (h : ∀ x ∈ exchanges, k.Tells x.question x.answer) :
    k.Answers.Follows ran exchanges (ran ++ Mount.commands exchanges) := by
  induction exchanges generalizing ran with
  | nil => simp [Mount.commands]
  | cons x rest ih =>
    obtain ⟨hx, hrest⟩ := List.forall_mem_cons.mp h
    refine ⟨_, ⟨hx, rfl⟩, ?_⟩
    have hrun : k.Answers.Follows (ran ++ Mount.commands [x]) rest _ := ih hrest
    rwa [List.append_assoc, Mount.commands, Mount.commands, ← List.filterMap_append] at hrun

theorem tells_of_follows {exchanges : List (Exchange KernelCall.Answer)} {ran' : List Command}
    (h : k.Answers.Follows ran exchanges ran') : ∀ x ∈ exchanges, k.Tells x.question x.answer := by
  induction exchanges generalizing ran with
  | nil => exact List.forall_mem_nil _
  | cons x rest ih =>
    obtain ⟨middle, hx, hrest⟩ := h
    exact List.forall_mem_cons.mpr ⟨hx.1, ih hrest⟩

theorem exists_tells (k : Still) (call : KernelCall) : ∃ answer, k.Tells call answer := by
  cases call with
  | resolve | mountTable | fileStatus | listDirectory => exact ⟨_, rfl⟩
  | _ => exact ⟨default, trivial⟩

/-- Whatever is held with the host comes to its end. -/
theorem exists_leads {α : Type} (k : Still) (d : OnKernel α) : ∃ exchanges a,
    d.Leads exchanges (.done a) ∧ ∀ x ∈ exchanges, k.Tells x.question x.answer := by
  have hanswer : ∀ call ran, ∃ answer ran', k.Answers call ran answer ran' := by
    intro call ran
    obtain ⟨answer, htells⟩ := k.exists_tells call
    exact ⟨answer, _, htells, rfl⟩
  obtain ⟨a, _, exchanges, hlead, hfollows⟩ := exists_ends hanswer d []
  exact ⟨exchanges, a, hlead, tells_of_follows hfollows⟩

theorem Answers.unchanged (call : KernelCall) (ran : List Command) (answer : call.Answer)
    (ran' : List Command) (hlook : call.Looks) (h : k.Answers call ran answer ran') :
    ran' = ran := by
  obtain ⟨-, rfl⟩ := h
  cases call with
  | resolve | mountTable | fileStatus | listDirectory => exact List.append_nil ran
  | _ => exact hlook.elim

/-- Looking runs no command. -/
theorem looking_always {α : Type} {d : OnKernel α} {goal : α → Prop}
    (hd : d.Asks KernelCall.Looks)
    (h : d.Always k.Answers (fun _ => True) (fun a _ => goal a) ran) :
    d.Always k.Answers (fun _ => True) (fun a ran' => ran' = ran ∧ goal a) ran :=
  -- Two walks through one dialogue: one for what is run, one for what is found.
  have hran : d.Always k.Answers (· = ran) (fun _ ran' => ran' = ran) ran :=
    hd.always_unchanged Answers.unchanged
  (hran.mono (fun _ _ _ _ hw => hw) (fun _ _ => trivial) fun _ _ heq => heq).and h

/-! ### What the tools find -/

theorem validate_always (device : Path) : (Device.validate device).run.Always k.Answers
    (fun _ => True) (fun r ran' => ran' = ran ∧
      (r = .ok () ↔ ∃ found, k.status device = .ok found ∧ found.kind = .blockDevice)) ran := by
  refine looking_always (Device.validate_asks device) ?_
  rw [Device.validate, always_run_bind, HostTask.always_call]
  rintro answer ran' ⟨hstatus, -⟩
  refine ⟨trivial, ?_⟩
  rw [← show answer = k.status device from hstatus]
  rcases answer with e | found
  · show (Except.error _ = Except.ok () ↔ ∃ found, Except.error e = Except.ok found ∧ _)
    simp
  · show (if found.kind ≠ .blockDevice then _ else _ : HostTask Unit).run.Always _ _ _ _
    by_cases hkind : found.kind ≠ .blockDevice
    · rw [if_pos hkind]
      show (Except.error _ = Except.ok () ↔ _)
      simp [hkind]
    · rw [if_neg hkind]
      show (Except.ok () = Except.ok () ↔ _)
      simp [not_not.mp hkind]

theorem number_always (device : Path) : (Device.number device).run.Always k.Answers
    (fun _ => True) (fun r ran' => ran' = ran ∧ ∀ number, r = .ok number ↔
      ∃ found, k.status device = .ok found ∧ found.deviceNumber = number) ran := by
  refine looking_always (Device.number_asks device) ?_
  rw [Device.number, always_run_bind, HostTask.system, HostTask.always_call]
  rintro answer ran' ⟨hstatus, -⟩
  refine ⟨trivial, ?_⟩
  rw [← show answer = k.status device from hstatus]
  rcases answer with e | found
  · show ∀ number, (Except.error _ = Except.ok number ↔ _)
    simp
  · show ∀ number, (Except.ok found.deviceNumber = Except.ok number ↔ _)
    simp

/-- Where the path leads to. -/
theorem resolve_always (path : Path) : (Mount.resolve path).run.Always k.Answers (fun _ => True)
    (fun r _ => ∀ place, r = .ok (some place) ↔ k.place path = .ok place) ran := by
  rintro answer ran' ⟨hplace, -⟩
  refine ⟨trivial, ?_⟩
  rw [← show answer = k.place path from hplace]
  rcases answer with e | place
  · by_cases he : e = .notFound
    · simp only [he, if_true]
      show ∀ place, (Except.ok none = Except.ok (some place) ↔ _)
      simp
    · simp only [he, if_false]
      show ∀ place, (Except.error _ = Except.ok (some place) ↔ _)
      simp
  · show ∀ other, (Except.ok (some place) = Except.ok (some other) ↔ _)
    simp

theorem records_always : Mount.records.run.Always k.Answers (fun _ => True)
    (fun r _ => ∀ records, r = .ok records ↔ k.Reads records) ran := by
  rw [System.records_run]
  rintro answer ran' ⟨htable, -⟩
  refine ⟨trivial, ?_⟩
  show ∀ records, System.recordsOf answer = .ok records ↔ _
  simp only [Reads, ← show answer = k.table from htable]
  rcases answer with e | octets
  · simp [System.recordsOf]
  · rw [System.recordsOf]
    cases htext : Mount.asText octets <;> simp [htext]

theorem Reads.unique {records others : List MountRecord} (h : k.Reads records)
    (h' : k.Reads others) : records = others := by
  obtain ⟨octets, table, htable, htext, rfl⟩ := h
  obtain ⟨octets', table', htable', htext', rfl⟩ := h'
  obtain rfl := Except.ok.inj (htable.symm.trans htable')
  rw [Except.ok.inj (htext.symm.trans htext')]

theorem lastOn_iff {place : Path} {records : List MountRecord} (hplace : k.place path = .ok place)
    (hrecords : k.Reads records) (record : MountRecord) : k.LastOn path record ↔
      records.reverse.find? (fun m => m.mountPoint.same place) = some record := by
  rw [← List.getLast?_filter]
  constructor
  · rintro ⟨place', others, hplace', hothers, hlast⟩
    obtain rfl := Except.ok.inj (hplace.symm.trans hplace')
    obtain rfl := hrecords.unique hothers
    exact hlast
  · exact fun hlast => ⟨place, records, hplace, hrecords, hlast⟩

theorem LastOn.word {record : MountRecord} (h : k.LastOn path record) :
    record.deviceNumber < UInt64.size := by
  obtain ⟨place, records, -, ⟨-, table, -, -, rfl⟩, hlast⟩ := h
  exact Mount.number_of_mem_readTable (List.mem_of_mem_filter (List.mem_of_getLast? hlast))

theorem not_lastOn_of_place (h : ∀ place, k.place path ≠ .ok place) (record : MountRecord) :
    ¬ k.LastOn path record := by
  rintro ⟨place, -, hplace, -⟩
  exact h place hplace

theorem not_lastOn_of_records (h : ∀ records, ¬ k.Reads records) (record : MountRecord) :
    ¬ k.LastOn path record := by
  rintro ⟨-, records, -, hrecords, -⟩
  exact h records hrecords

theorem info_always (path : Path) : (Mount.info path).run.Always k.Answers
    (fun _ => True) (fun r ran' => ran' = ran ∧ ∀ record, r = .ok record ↔
      k.LastOn path record) ran := by
  refine looking_always (Mount.info_asks path) ?_
  rw [Mount.info, always_run_bind]
  refine (resolve_always path).imp ?_
  rintro (e | _ | place) ran' hplace
  · exact fun record => iff_of_false (by simp) (not_lastOn_of_place (by simpa using hplace) record)
  · exact fun record => iff_of_false (by simp) (not_lastOn_of_place (by simpa using hplace) record)
  refine always_run_bind.mpr (records_always.imp ?_)
  rintro (e | records) ran' hrecords
  · exact fun record =>
      iff_of_false (by simp) (not_lastOn_of_records (by simpa using hrecords) record)
  · have hlast := lastOn_iff ((hplace place).mp rfl) ((hrecords records).mp rfl)
    dsimp only
    cases hfind : records.reverse.find? (fun m => m.mountPoint.same place) with
    | none => exact fun record => by simp [hlast, hfind]
    | some found =>
      show ∀ record, Except.ok found = Except.ok record ↔ _
      simp [hlast, hfind]

theorem isMountPoint_always (path : Path) : (Mount.isMountPoint path).run.Always k.Answers
    (fun _ => True) (fun r ran' => ran' = ran ∧ (r = .ok true ↔
      ∃ record, k.LastOn path record)) ran := by
  refine looking_always (Mount.isMountPoint_asks path) ?_
  rw [Mount.isMountPoint, always_run_bind]
  refine (resolve_always path).imp ?_
  rintro (e | _ | place) ran' hplace
  · simpa using not_lastOn_of_place (by simpa using hplace)
  · show Except.ok false = Except.ok true ↔ _
    simpa using not_lastOn_of_place (by simpa using hplace)
  refine always_run_bind.mpr (records_always.imp ?_)
  rintro (e | records) ran' hrecords
  · simpa using not_lastOn_of_records (by simpa using hrecords)
  · have hlast := lastOn_iff ((hplace place).mp rfl) ((hrecords records).mp rfl)
    show Except.ok (records.any _) = Except.ok true ↔ _
    simp only [hlast, ← Option.isSome_iff_exists, List.find?_isSome, Except.ok.injEq,
      List.any_eq_true, List.mem_reverse]

end Still

/-! ## Trimming -/

namespace Share

variable {s : Share} {k : Still} {ran : List Command} {encryptedDevice : Bool}

theorem mapError_eq_ok_iff {α ε ε' : Type} {f : ε → ε'} {answer : Except ε α} {a : α} :
    answer.mapError f = .ok a ↔ answer = .ok a := by
  cases answer <;> simp [Except.mapError]

theorem validate_still (device : Path) :
    ((s.validate device).run.refine (HostCall.perform s.settings)).Always k.Answers
      (fun _ => True) (fun r ran' => ran' = ran ∧ (r = .ok () ↔
        ∃ found, k.status device = .ok found ∧ found.kind = .blockDevice)) ran := by
  rw [validate, always_refine_orFail, HostCall.onHost, put_refine]
  simp only [mapError_eq_ok_iff]
  exact k.validate_always device

/-- The filesystem on the mount path is that of the device. -/
theorem expectDevice_still (device : Path) :
    ((s.expectDevice device).run.refine (HostCall.perform s.settings)).Always k.Answers
      (fun _ => True) (fun r ran' => ran' = ran ∧ (r = .ok () ↔ ∃ found record,
        k.status device = .ok found ∧ k.LastOn s.mountPath record ∧
          record.deviceNumber = found.deviceNumber)) ran := by
  rw [expectDevice, mounted, always_refine_step_bind, HostCall.onHost, put_refine]
  refine (k.info_always s.mountPath).imp ?_
  rintro (e | record) ran' ⟨rfl, hlast⟩
  · refine ⟨rfl, iff_of_false (by simp) ?_⟩
    rintro ⟨-, record, -, hrecord, -⟩
    cases (hlast record).mpr hrecord
  refine always_refine_step_bind.mpr ?_
  rw [HostCall.onHost, put_refine]
  refine (k.number_always device).imp ?_
  rintro (e | number) ran' ⟨rfl, hnumber⟩
  · refine ⟨rfl, iff_of_false (by simp) ?_⟩
    rintro ⟨found, -, hfound, -⟩
    cases (hnumber _).mpr ⟨found, hfound, rfl⟩
  have hsame : (∃ found record, k.status device = .ok found ∧ k.LastOn s.mountPath record ∧
      record.deviceNumber = found.deviceNumber) ↔ record.deviceNumber = number := by
    constructor
    · rintro ⟨found, record', hfound, hrecord, heq⟩
      obtain rfl := Except.ok.inj ((hlast record').mpr hrecord)
      rw [heq, Except.ok.inj ((hnumber _).mpr ⟨found, hfound, rfl⟩)]
    · rintro heq
      obtain ⟨found, hfound, rfl⟩ := (hnumber number).mp rfl
      exact ⟨found, record, hfound, (hlast record).mp rfl, heq⟩
  show (refine _ (if record.deviceNumber ≠ number then _ else _ :
    ExceptT ShareError OnHost Unit).run).Always _ _ _ _
  rw [hsame]
  by_cases hnum : record.deviceNumber = number
  · rw [if_neg (not_not.mpr hnum)]
    exact ⟨rfl, iff_of_true rfl hnum⟩
  · rw [if_pos hnum]
    exact ⟨rfl, iff_of_false (by simp) hnum⟩

/-- Something is mounted on the mount path, and it can be listed. -/
theorem expectMounted_still :
    (s.expectMounted.run.refine (HostCall.perform s.settings)).Always k.Answers
      (fun _ => True) (fun r ran' => ran' = ran ∧ (r = .ok () ↔
        (∃ record, k.LastOn s.mountPath record) ∧ ∃ names, k.listing s.mountPath = .ok names))
      ran := by
  rw [expectMounted, always_refine_step_bind, HostCall.onHost, put_refine]
  refine (k.isMountPoint_always s.mountPath).imp ?_
  rintro (e | _ | _) ran' ⟨rfl, hmounted⟩
  · exact ⟨rfl, iff_of_false (by simp) fun h => by simpa using hmounted.mpr h.1⟩
  · exact ⟨rfl, iff_of_false (by simp) fun h => by simpa using hmounted.mpr h.1⟩
  refine always_refine_orFail.mpr ?_
  rintro answer ran' ⟨hlisting, hran⟩
  refine ⟨trivial, hran.trans (List.append_nil _), mapError_eq_ok_iff.trans ?_⟩
  rw [← show answer = k.listing s.mountPath from hlisting]
  rcases answer with e | names
  · exact iff_of_false (by simp [Except.map]) (by simp)
  · exact iff_of_true rfl ⟨hmounted.mp rfl, names, rfl⟩

/-- What is expected is what the checks find, one after the other. -/
theorem expects_iff {device : Path} : k.Expects s device ↔
    (∃ found, k.status device = .ok found ∧ found.kind = .blockDevice) ∧
    (∃ found record, k.status device = .ok found ∧ k.LastOn s.mountPath record ∧
      record.deviceNumber = found.deviceNumber) ∧
    (∃ record, k.LastOn s.mountPath record) ∧ ∃ names, k.listing s.mountPath = .ok names := by
  constructor
  · rintro ⟨⟨found, record, hfound, hblock, hlast, hmajor, hminor⟩, hlisted⟩
    have hnumber : record.deviceNumber = found.deviceNumber :=
      DeviceNumber.eq_of_major_minor hlast.word (k.word device found hfound) hmajor hminor
    exact ⟨⟨found, hfound, hblock⟩, ⟨found, record, hfound, hlast, hnumber⟩, ⟨record, hlast⟩,
      hlisted⟩
  · rintro ⟨⟨found, hfound, hblock⟩, ⟨other, record, hother, hlast, hnumber⟩, -, hlisted⟩
    obtain rfl := Except.ok.inj (hfound.symm.trans hother)
    exact ⟨⟨found, record, hfound, hblock, hlast, by rw [hnumber], by rw [hnumber]⟩, hlisted⟩

/-- **Trimming runs its command exactly if all is as expected**, and no other. -/
theorem trim_still : ((s.trim encryptedDevice).run.refine (HostCall.perform s.settings)).Always
    k.Answers (fun _ => True) (fun _ ran' =>
      (k.Expects s (s.device encryptedDevice) ∧ ran' = ran ++ [s.trimCommand]) ∨
      (¬ k.Expects s (s.device encryptedDevice) ∧ ran' = ran)) ran := by
  rw [expects_iff, trim, always_refine_run_bind]
  refine (validate_still _).imp ?_
  rintro (e | ⟨⟩) ran' ⟨rfl, hblock⟩
  · exact .inr ⟨fun h => by simpa using hblock.mpr h.1, rfl⟩
  refine always_refine_run_bind.mpr ((expectDevice_still _).imp ?_)
  rintro (e | ⟨⟩) ran' ⟨rfl, hnumber⟩
  · exact .inr ⟨fun h => by simpa using hnumber.mpr h.2.1, rfl⟩
  refine always_refine_run_bind.mpr (expectMounted_still.imp ?_)
  rintro (e | ⟨⟩) ran' ⟨rfl, hmounted⟩
  · exact .inr ⟨fun h => by simpa using hmounted.mpr h.2.2, rfl⟩
  refine always_refine_step_bind.mpr ?_
  rintro answer ran'' ⟨-, rfl⟩
  refine ⟨trivial, ?_⟩
  have hexpected := And.intro (hblock.mp rfl) (And.intro (hnumber.mp rfl) (hmounted.mp rfl))
  cases answer <;> exact .inl ⟨hexpected, rfl⟩

/-- The steps of trimming only look, but for the command. -/
theorem perform_trimSteps_asks {call : HostCall} (h : call ∈ s.trimSteps encryptedDevice) :
    (call.perform s.settings).Asks fun q => q.Looks ∨ q = .run s.trimCommand := by
  simp only [trimSteps, List.mem_cons, List.not_mem_nil, or_false] at h
  rcases h with rfl | rfl | rfl | rfl | rfl | rfl
  · exact (Device.validate_asks _).mono fun _ => .inl
  · exact (Mount.info_asks _).mono fun _ => .inl
  · exact (Device.number_asks _).mono fun _ => .inl
  · exact (Mount.isMountPoint_asks _).mono fun _ => .inl
  · exact ⟨.inl trivial, fun _ => trivial⟩
  · exact asks_put (.inr rfl)

/-- **Blocks are discarded on the expected device only.**  An agent, in any state of its life, is
asked to trim on a host that stands still.  It runs `fstrim` exactly if it has a volume, the device
is a block device, the mount path leads somewhere, the mount table can be read, the last filesystem
on the path has the major and the minor number of the device, and the path can be listed.  It runs
it once and on the mount path, and it runs nothing else.  All other calls look, and what the agent
remembers stays the same. -/
theorem trims_expected_device (k : Still) {episodes : List Episode} {state state' : ShareState}
    {result : Except ShareError Unit} {exchanges : List (Exchange KernelCall.Answer)}
    (hlife : s.Life (.initial s.volume) episodes state)
    (hlead : (s.performOnKernel (.trim encryptedDevice) state).Leads exchanges
      (.done (result, state')))
    (hhost : ∀ x ∈ exchanges, k.Tells x.question x.answer) :
    ((∃ c ∈ Mount.commands exchanges, c.program = "fstrim") ↔
      s.volume.isBound ∧ k.Expects s (s.device encryptedDevice)) ∧
    (Mount.commands exchanges = [] ∨ Mount.commands exchanges =
      [⟨"fstrim", [s.mountPath.text], none, s.settings.commandTimeout⟩]) ∧
    (∀ x ∈ exchanges, x.question.Looks ∨
      x.question = .run ⟨"fstrim", [s.mountPath.text], none, s.settings.commandTimeout⟩) ∧
    state' = state := by
  by_cases hbound : state = .unbound
  · have hv := hlife.unbound_iff.mp hbound
    subst hbound
    rw [performOnKernel, perform_unbound] at hlead
    obtain ⟨rfl, hresult⟩ := leads_done.mp hlead
    obtain ⟨-, rfl⟩ := Prod.mk.inj hresult
    exact ⟨iff_of_false (by simp [Mount.commands]) fun h => hv h.1, .inl rfl,
      List.forall_mem_nil _, rfl⟩
  · have hv : s.volume.isBound :=
      Classical.byContradiction fun h => hbound (hlife.unbound_iff.mpr h)
    rw [performOnKernel, perform_trim hbound, refine_bind] at hlead
    obtain ⟨r, htrim, hresult⟩ := leads_map.mp hlead
    obtain ⟨rfl, rfl⟩ := Prod.mk.inj hresult
    have hasks : ((s.trim encryptedDevice).run.refine (HostCall.perform s.settings)).Asks
        fun q => q.Looks ∨ q = .run s.trimCommand :=
      (trim_asks encryptedDevice).refine fun _ => perform_trimSteps_asks
    have hfollows : k.Answers.Follows [] exchanges (Mount.commands exchanges) :=
      Still.follows_answers hhost
    rcases trim_still.ends htrim hfollows with ⟨hexpected, hran⟩ | ⟨hnot, hran⟩
    · rw [hran]
      exact ⟨iff_of_true ⟨_, .head _, rfl⟩ ⟨hv, hexpected⟩, .inr rfl, hasks.of_leads htrim, rfl⟩
    · rw [hran]
      exact ⟨iff_of_false (by simp) fun h => hnot h.2, .inl rfl, hasks.of_leads htrim, rfl⟩

/-- A host with one block device, of number 8:16, on the mount path. -/
def mountedStill : Still where
  status path := if path = sample.device false then .ok ⟨.blockDevice, 2064⟩ else .error .notFound
  place := .ok
  table := .ok (Utf8.encode mountedOnce)
  listing _ := .ok ["lost+found"]
  word := by
    intro path found h
    by_cases hpath : path = sample.device false
    · rw [if_pos hpath] at h
      rw [← Except.ok.inj h]
      decide
    · rw [if_neg hpath] at h
      cases h

theorem mountedStill_expects : mountedStill.Expects sample (sample.device false) := by
  have htext : Mount.asText (Utf8.encode mountedOnce) = .ok mountedOnce := by
    rw [Mount.asText, Utf8.decode?_encode]
  have hstatus : mountedStill.status (sample.device false) = .ok ⟨.blockDevice, 2064⟩ := by
    simp [mountedStill]
  refine ⟨⟨⟨.blockDevice, 2064⟩, ⟨sample.mountPath, 2064⟩, hstatus, rfl, ?_, rfl, rfl⟩, _, rfl⟩
  exact ⟨sample.mountPath, _, rfl, ⟨_, mountedOnce, rfl, htext, rfl⟩, by decide⟩

/-- **A volume that is mounted is trimmed.** -/
theorem trimmed_as_expected : ∃ exchanges result state,
    (sample.performOnKernel (.trim false) .exported).Leads exchanges (.done (result, state)) ∧
      ∃ c ∈ Mount.commands exchanges, c.program = "fstrim" := by
  obtain ⟨exchanges, ⟨result, state⟩, hlead, hhost⟩ :=
    mountedStill.exists_leads (sample.performOnKernel (.trim false) .exported)
  obtain ⟨hruns, -⟩ := trims_expected_device mountedStill published_life hlead hhost
  exact ⟨exchanges, result, state, hlead, hruns.mpr ⟨by decide, mountedStill_expects⟩⟩

end Share
end ShareAgent
