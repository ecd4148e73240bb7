import ShareAgent.Mount.Mounter
import ShareAgent.Proofs.Device.Format

/-! # Which devices are formatted

Mounting a device comes to at most four calls, in one of few orders (`Course`): the target is made,
the device is probed, a blank one is formatted, and what it holds then is mounted.  Everything about
mounting follows from this list of courses, which has all of them (`course_of_leads`).

So a device is formatted only after a probe whose answer stands for a blank one.  These are the
probe that finds nothing, the report that names no signature, and, by mistake, the report of a
wiped device.  The last is the only way to lose a signature (`formats_blank_or_wiped`), and it is
a way: wiped devices are formatted, whatever else their report says.
-/
namespace ShareAgent.Mount
open Dialogue Device

/-- The commands that were run. -/
def commands (exchanges : List (Exchange KernelCall.Answer)) : List Command :=
  exchanges.filterMap fun x =>
    match x.question with
    | .run c => some c
    | _ => none

variable {device target : Path} {timeout : Span} {exchanges : List (Exchange KernelCall.Answer)}

/-- **The courses of a mount**, finished or not. -/
inductive Course (device target : Path) (timeout : Span) :
    List (Exchange KernelCall.Answer) → Prop
  | start : Course device target timeout []
  | target (made : Except SystemError Unit) :
      Course device target timeout [⟨.makeDirectories target, made⟩]
  | probed (answer : Except HostError Text) :
      Course device target timeout
        [⟨.makeDirectories target, .ok ()⟩, ⟨.run (probeCommand device timeout), answer⟩]
  /-- A device that holds something is mounted as it is. -/
  | mounted {answer : Except HostError Text} {format : Text} (mounted : Except SystemError Unit)
      (hfound : found answer = .ok format) (hsome : format ≠ []) (htype : ' ' ∉ format) :
      Course device target timeout
        [⟨.makeDirectories target, .ok ()⟩, ⟨.run (probeCommand device timeout), answer⟩,
          ⟨.mount device target format, mounted⟩]
  | formatted {answer : Except HostError Text} (made : Except HostError Text)
      (hblank : found answer = .ok []) :
      Course device target timeout
        [⟨.makeDirectories target, .ok ()⟩, ⟨.run (probeCommand device timeout), answer⟩,
          ⟨.run (formatCommand device timeout), made⟩]
  /-- A fresh filesystem is mounted once it is made. -/
  | fresh {answer : Except HostError Text} (output : Text) (mounted : Except SystemError Unit)
      (hblank : found answer = .ok []) :
      Course device target timeout
        [⟨.makeDirectories target, .ok ()⟩, ⟨.run (probeCommand device timeout), answer⟩,
          ⟨.run (formatCommand device timeout), .ok output⟩,
          ⟨.mount device target defaultFormat, mounted⟩]

/-- What is done with what the probe found. -/
def mountFound (device target : Path) (timeout : Span) :
    Except HostError Text → OnKernel (Except HostError Unit)
  | .error e => .done (.error e)
  | .ok format =>
    if format = [] then
      .ask (.run (formatCommand device timeout)) fun
        | .error e => .done (.error e)
        | .ok _ => .ask (.mount device target defaultFormat) fun mounted =>
          .done (mounted.mapError (blame target))
    else if format.contains ' ' then
      .done (.error (.invalidDevice device ("refusing to mount device holding " ++ format)))
    else .ask (.mount device target format) fun mounted => .done (mounted.mapError (blame target))

theorem ensureFormat_run (device : Path) (timeout : Span) : (ensureFormat device timeout).run =
    .ask (.run (probeCommand device timeout)) fun answer =>
      match found answer with
      | .error e => .done (.error e)
      | .ok format =>
        if format = [] then
          .ask (.run (formatCommand device timeout)) fun made =>
            .done (made.map fun _ => defaultFormat)
        else .done (.ok format) := by
  rw [ensureFormat, ExceptT.run_bind, format_run]
  show Dialogue.ask _ _ = _
  refine congrArg _ (funext fun answer => ?_)
  dsimp only
  rcases found answer with e | format
  · rfl
  show (if format = [] then _ else _ : HostTask Text).run = if format = [] then _ else _
  by_cases hblank : format = []
  · rw [if_pos hblank, if_pos hblank]
    show Dialogue.ask _ _ = Dialogue.ask _ _
    refine congrArg _ (funext fun made => ?_)
    cases made <;> rfl
  · rw [if_neg hblank, if_neg hblank]
    rfl

theorem mount_run (device target : Path) (timeout : Span) : (mount device target timeout).run =
    .ask (.makeDirectories target) fun
      | .error e => .done (.error (.system e))
      | .ok () => .ask (.run (probeCommand device timeout)) fun answer =>
        mountFound device target timeout (found answer) := by
  rw [mount, ExceptT.run_bind]
  show Dialogue.ask _ _ = _
  refine congrArg _ (funext fun made => ?_)
  rcases made with e | ⟨⟩
  · rfl
  show ((ensureFormat device timeout >>= _).run : OnKernel (Except HostError Unit)) = _
  rw [ExceptT.run_bind, ensureFormat_run]
  show Dialogue.ask _ _ = _
  refine congrArg _ (funext fun answer => ?_)
  dsimp only
  rcases found answer with e | format
  · rfl
  show (if format = [] then _ else _ : OnKernel (Except HostError Text)).bind _ = _
  by_cases hblank : format = []
  · rw [if_pos hblank, mountFound, if_pos hblank]
    show Dialogue.ask _ _ = Dialogue.ask _ _
    refine congrArg _ (funext fun made => ?_)
    cases made <;> rfl
  · rw [if_neg hblank, mountFound, if_neg hblank]
    show (if format.contains ' ' then _ else _ : HostTask Unit).run = _
    cases format.contains ' ' <;> rfl

/-- **These are all courses.** -/
theorem course_of_leads {rest : OnKernel (Except HostError Unit)}
    (h : (mount device target timeout).run.Leads exchanges rest) :
    Course device target timeout exchanges := by
  rw [mount_run] at h
  obtain _ | ⟨made, h⟩ := h
  · exact .start
  rcases made with e | ⟨⟩
  · cases h
    exact .target _
  obtain _ | ⟨answer, h⟩ := h
  · exact .target _
  dsimp only at h
  cases hfound : found answer with
  | error e =>
    rw [hfound] at h
    cases h
    exact .probed answer
  | ok format =>
    rw [hfound, mountFound] at h
    by_cases hblank : format = []
    · subst hblank
      rw [if_pos rfl] at h
      obtain _ | ⟨made, h⟩ := h
      · exact .probed answer
      rcases made with e | output
      · cases h
        exact .formatted _ hfound
      obtain _ | ⟨mounted, h⟩ := h
      · exact .formatted _ hfound
      cases h
      exact .fresh output mounted hfound
    · rw [if_neg hblank] at h
      by_cases htype : format.contains ' '
      · rw [if_pos htype] at h
        cases h
        exact .probed answer
      · rw [if_neg htype] at h
        obtain _ | ⟨mounted, h⟩ := h
        · exact .probed answer
        cases h
        exact .mounted mounted hfound hblank (by simpa using htype)

/-- A blank device is formatted and mounted. -/
theorem leads_fresh {answer : Except HostError Text} (hblank : found answer = .ok [])
    (output : Text) (mounted : Except SystemError Unit) :
    (mount device target timeout).run.Leads
      [⟨.makeDirectories target, .ok ()⟩, ⟨.run (probeCommand device timeout), answer⟩,
        ⟨.run (formatCommand device timeout), .ok output⟩,
        ⟨.mount device target defaultFormat, mounted⟩]
      (.done (mounted.mapError (blame target))) := by
  rw [mount_run]
  refine leads_ask.mpr (leads_ask.mpr ?_)
  rw [hblank, mountFound, if_pos rfl]
  exact leads_ask.mpr (leads_ask.mpr (.here _))

/-! ## What follows for every course -/

theorem formatCommand_ne_probeCommand :
    formatCommand device timeout ≠ probeCommand device timeout :=
  have hprogram : ("mkfs." ++ defaultFormat : Text) ≠ "blkid" := by decide
  fun h => hprogram (congrArg Command.program h)

/-- A mount runs the probe and then the formatter, as far as it gets. -/
theorem Course.commands_prefix (h : Course device target timeout exchanges) :
    commands exchanges <+: [probeCommand device timeout, formatCommand device timeout] := by
  cases h with
  | start | target => exact List.nil_prefix
  | probed | mounted => exact ⟨[formatCommand device timeout], rfl⟩
  | formatted | fresh => exact List.prefix_rfl

/-- **A device is formatted only after a probe that found it blank.** -/
theorem Course.blank_of_formatted (h : Course device target timeout exchanges)
    (hmem : formatCommand device timeout ∈ commands exchanges) : ∃ answer,
      ⟨.run (probeCommand device timeout), answer⟩ ∈ exchanges ∧ found answer = .ok [] := by
  cases h with
  | start | target => cases hmem
  | probed | mounted => exact absurd (List.mem_singleton.mp hmem) formatCommand_ne_probeCommand
  | formatted _ hblank | fresh _ _ hblank => exact ⟨_, .tail _ (.head _), hblank⟩

/-- After the formatter only its fresh filesystem is mounted. -/
theorem Course.of_mount {source place : Path} {format : Text} {mounted : Except SystemError Unit}
    (h : Course device target timeout exchanges)
    (hmem : ⟨.mount source place format, mounted⟩ ∈ exchanges) :
    source = device ∧ place = target ∧
      (formatCommand device timeout ∈ commands exchanges → format = defaultFormat ∧
        ∃ output, ⟨.run (formatCommand device timeout), .ok output⟩ ∈ exchanges) := by
  have hnot : formatCommand device timeout ∉ [probeCommand device timeout] := fun hmem =>
    formatCommand_ne_probeCommand (List.mem_singleton.mp hmem)
  cases h with
  | start | target | probed | formatted => simp at hmem
  | mounted =>
    simp only [List.mem_cons, Exchange.mk.injEq, KernelCall.mount.injEq, reduceCtorEq, false_and,
      false_or, List.not_mem_nil, or_false] at hmem
    exact ⟨hmem.1.1, hmem.1.2.1, fun hformatted => absurd hformatted hnot⟩
  | fresh output =>
    simp only [List.mem_cons, Exchange.mk.injEq, KernelCall.mount.injEq, reduceCtorEq, false_and,
      false_or, List.not_mem_nil, or_false] at hmem
    exact ⟨hmem.1.1, hmem.1.2.1, fun _ => ⟨hmem.1.2.2, output, .tail _ (.tail _ (.head _))⟩⟩

/-- What has a blank in its format is left alone. -/
theorem Course.refused {answer : Except HostError Text} {format : Text}
    (h : Course device target timeout exchanges)
    (hmem : ⟨.run (probeCommand device timeout), answer⟩ ∈ exchanges)
    (hfound : found answer = .ok format) (htype : ' ' ∈ format) :
    formatCommand device timeout ∉ commands exchanges ∧
      ∀ source place format mounted, ⟨.mount source place format, mounted⟩ ∉ exchanges := by
  have hprobe : probeCommand device timeout ≠ formatCommand device timeout :=
    formatCommand_ne_probeCommand.symm
  cases h with
  | start | target => simp at hmem
  | probed =>
    refine ⟨fun hformatted => ?_, by simp⟩
    exact formatCommand_ne_probeCommand (List.mem_singleton.mp hformatted)
  | mounted _ hanswer _ hfree =>
    obtain rfl : answer = _ := by simpa using hmem
    obtain rfl := Except.ok.inj (hfound.symm.trans hanswer)
    exact absurd htype hfree
  | formatted _ hanswer | fresh _ _ hanswer =>
    obtain rfl : answer = _ := by simpa [hprobe] using hmem
    obtain rfl := Except.ok.inj (hfound.symm.trans hanswer)
    cases htype

/-- **Only blank devices and wiped ones are formatted.**  Whatever is answered, a mount runs the
probe and then perhaps the formatter, each once and on this device.  The formatter is run only if
the probe found nothing, or if its report is that of an unsigned device or of a wiped one.  After
it, only a fresh filesystem of the standard type is mounted.  If the report names a partition table
but no filesystem, then nothing is formatted and nothing is mounted, unless the device is wiped.
The exception is real: a wiped device is formatted and mounted, whatever its report names. -/
theorem formats_blank_or_wiped (device target : Path) (timeout : Span) :
    (∀ exchanges rest, (mount device target timeout).run.Leads exchanges rest →
      commands exchanges <+: [probeCommand device timeout, formatCommand device timeout] ∧
      (formatCommand device timeout ∈ commands exchanges → ∃ answer,
        ⟨.run (probeCommand device timeout), answer⟩ ∈ exchanges ∧
        ((∃ line complaint, answer = .error (.commandFailed line (some 2) complaint)) ∨
          ∃ report, answer = .ok report ∧ (Unsigned report ∨ Wiped report))) ∧
      (∀ source place (format : Text) mounted, ⟨.mount source place format, mounted⟩ ∈ exchanges →
        source = device ∧ place = target ∧
        (formatCommand device timeout ∈ commands exchanges → format = "ext4" ∧
          ∃ output, ⟨.run (formatCommand device timeout), .ok output⟩ ∈ exchanges)) ∧
      ∀ report table, ⟨.run (probeCommand device timeout), .ok report⟩ ∈ exchanges →
        (∀ value, Says report "TYPE" value → value = []) → Says report "PTTYPE" table →
        table ≠ [] → ¬ Wiped report →
        formatCommand device timeout ∉ commands exchanges ∧
        ∀ source place format mounted, ⟨.mount source place format, mounted⟩ ∉ exchanges) ∧
    ∀ report output mounted, Wiped report →
      (mount device target timeout).run.Leads
        [⟨.makeDirectories target, .ok ()⟩, ⟨.run (probeCommand device timeout), .ok report⟩,
          ⟨.run (formatCommand device timeout), .ok output⟩,
          ⟨.mount device target "ext4", mounted⟩]
        (.done (mounted.mapError (blame target))) := by
  refine ⟨fun exchanges rest hlead => ?_, fun report output mounted hwiped => ?_⟩
  · have hcourse := course_of_leads hlead
    refine ⟨hcourse.commands_prefix, fun hmem => ?_, fun _ _ _ _ hmem => hcourse.of_mount hmem,
      fun report table hmem htype htable hne hwiped => ?_⟩
    · obtain ⟨answer, hprobe, hblank⟩ := hcourse.blank_of_formatted hmem
      refine ⟨answer, hprobe, ?_⟩
      rcases found_eq_nil_iff.mp hblank with hnothing | ⟨report, rfl, hformat⟩
      · exact .inl hnothing
      · exact .inr ⟨report, rfl, blank_cases hformat⟩
    · exact hcourse.refused hmem rfl (blank_mem_format htype htable hne hwiped)
  · refine leads_fresh ?_ output mounted
    exact found_eq_nil_iff.mpr (.inr ⟨report, rfl, hwiped.format_eq_nil⟩)

/-- A report with a partition table, and with a line for a type that is empty. -/
def emptyType : Text := "TYPE=\nPTTYPE=gpt\n"

/-- **A device with a partition table is formatted**, and mounted afterwards. -/
theorem partitioned_formatted :
    (∀ value, Says emptyType "TYPE" value → value = []) ∧ Says emptyType "PTTYPE" "gpt" ∧
      (mount "/dev/longhorn/pvc-1" "/export/pvc-1" (.ofSeconds 60)).run.Leads
        [⟨.makeDirectories "/export/pvc-1", .ok ()⟩,
          ⟨.run (probeCommand "/dev/longhorn/pvc-1" (.ofSeconds 60)), .ok emptyType⟩,
          ⟨.run (formatCommand "/dev/longhorn/pvc-1" (.ofSeconds 60)), .ok []⟩,
          ⟨.mount "/dev/longhorn/pvc-1" "/export/pvc-1" "ext4", .ok ()⟩]
        (.done (.ok ())) := by
  have hformat : (Signatures.read emptyType).format = [] := by decide
  have hblank : found (.ok emptyType) = .ok [] := congrArg Except.ok hformat
  refine ⟨fun value h => ?_, ?_, ?_⟩
  · have hmem := (says_iff_mem_values (by decide)).mp h
    have hvalues : values emptyType "TYPE" = [[]] := by decide
    rw [hvalues] at hmem
    exact List.mem_singleton.mp hmem
  · exact (says_iff_mem_values (by decide)).mpr (by decide)
  · exact leads_fresh hblank [] (.ok ())

end ShareAgent.Mount
