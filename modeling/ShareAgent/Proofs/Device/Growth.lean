import ShareAgent.Device.Growth
import ShareAgent.Proofs.Device.Format

/-! # When a filesystem grows

Growing asks for the format of the device, for its size and for the blocks of the filesystem, and
runs at most one more command, the one that grows.  All courses of it are listed (`GrowCourse`).  No
question is asked twice, so whatever a runner of commands does, it answers each of them in one way.
What its answers come to is said by `Tells`: a family of filesystems, the size of the device, and
the size and number of the blocks.

A report on blocks says for a key what the last line with the key says (`gives_iff`).  The sizes are
words of 64 bits, and the room is compared by a subtraction that stops at zero; over the natural
numbers that is a comparison without one (`hasRoom_iff`).  So the filesystem is grown exactly if all
is told and there is room for more than one block behind it (`grows_exactly_with_room`).  The
condition is one on the answers, not on what has been asked: a growth that gives up early meets
no such answers with the command that they call for.
-/
namespace ShareAgent.Device
open Dialogue Text

/-! ## What a report on blocks says -/

namespace BlockReport

/-- The line is `key`, the mark and `value`, with blanks around the key. -/
def Sets (r : BlockReport) (key line value : Text) : Prop :=
  ∃ name, r.mark ∉ name ∧ line = name ++ r.mark :: value ∧ trim name = key

/-- **The last line with the key gives this number.** -/
def Gives (r : BlockReport) (report key : Text) (n : Nat) : Prop :=
  ∃ before line after value, lines report = before ++ line :: after ∧ r.Sets key line value ∧
    Numeral.readWord 64 (trim value) = .ok n ∧ ∀ later ∈ after, ∀ value, ¬ r.Sets key later value

/-- What a line gives to the key, if it has the key; that may be no number. -/
def number? (r : BlockReport) (key line : Text) : Option (Option Nat) :=
  match cut r.mark line with
  | none => none
  | some (name, value) =>
    if trim name = key then some (Numeral.readWord 64 (trim value)).toOption else none

/-- What the report gives to the key, in the order of its lines. -/
def numbers (r : BlockReport) (report key : Text) : List (Option Nat) :=
  (lines report).filterMap (r.number? key)

variable {r : BlockReport} {report key line value : Text} {n : Nat}

theorem number?_of_sets (h : r.Sets key line value) :
    r.number? key line = some (Numeral.readWord 64 (trim value)).toOption := by
  obtain ⟨name, hname, rfl, rfl⟩ := h
  rw [number?, cut_mark hname]
  exact if_pos rfl

theorem number?_eq_none_iff : r.number? key line = none ↔ ∀ value, ¬ r.Sets key line value := by
  constructor
  · intro h value hsets
    rw [number?_of_sets hsets] at h
    cases h
  · intro h
    rw [number?]
    cases hcut : cut r.mark line with
    | none => rfl
    | some parts =>
      obtain ⟨name, value⟩ := parts
      obtain ⟨hname, hline⟩ := cut_eq_some_iff.mp hcut
      exact if_neg fun hkey => h value ⟨name, hname, hline, hkey⟩

theorem exists_sets (h : r.number? key line = some (some n)) :
    ∃ value, r.Sets key line value ∧ Numeral.readWord 64 (trim value) = .ok n := by
  have hsome : ¬ ∀ value, ¬ r.Sets key line value := by
    rw [← number?_eq_none_iff, h]
    exact nofun
  obtain ⟨value, hsets⟩ := Classical.not_forall_not.mp hsome
  rw [number?_of_sets hsets] at h
  refine ⟨value, hsets, ?_⟩
  cases hread : Numeral.readWord 64 (trim value) with
  | error e =>
    rw [hread] at h
    cases h
  | ok number =>
    rw [hread] at h
    exact congrArg Except.ok (Option.some.inj (Option.some.inj h))

/-- A report gives what is last in its numbers. -/
theorem gives_iff : r.Gives report key n ↔ (r.numbers report key).getLast? = some (some n) := by
  -- The last number is the first one that is met from the end.
  rw [numbers, List.getLast?_filterMap, List.findSome?_eq_some_iff]
  constructor
  · rintro ⟨before, line, after, value, hlines, hsets, hread, hafter⟩
    refine ⟨after.reverse, line, before.reverse, by simp [hlines], ?_, fun later hlater => ?_⟩
    · rw [number?_of_sets hsets, hread]
      rfl
    · exact number?_eq_none_iff.mpr (hafter later (List.mem_reverse.mp hlater))
  · rintro ⟨after, line, before, hlines, hnumber, hafter⟩
    obtain ⟨value, hsets, hread⟩ := exists_sets hnumber
    refine ⟨before.reverse, line, after.reverse, value, ?_, hsets, hread, fun later hlater => ?_⟩
    · rw [← List.reverse_reverse (lines report), hlines]
      simp
    · exact number?_eq_none_iff.mp (hafter later (List.mem_reverse.mp hlater))

/-! ### What the reader keeps -/

theorem add_eq (hkeys : r.sizeKey ≠ r.countKey) (b : Blocks) (line : Text) : r.add b line =
    ⟨(r.number? r.sizeKey line).getD b.size, (r.number? r.countKey line).getD b.count⟩ := by
  rw [add, number?, number?]
  cases cut r.mark line with
  | none => rfl
  | some parts =>
    obtain ⟨name, value⟩ := parts
    by_cases hsize : trim name = r.sizeKey
    · simp [hsize, hkeys]
    · by_cases hcount : trim name = r.countKey
      · simp [hcount, hkeys.symm]
      · simp [hsize, hcount]

theorem foldl_add (hkeys : r.sizeKey ≠ r.countKey) (ls : List Text) (b : Blocks) :
    ls.foldl r.add b =
      ⟨(ls.filterMap (r.number? r.sizeKey)).getLast?.getD b.size,
        (ls.filterMap (r.number? r.countKey)).getLast?.getD b.count⟩ := by
  induction ls generalizing b with
  | nil => rfl
  | cons l ls ih =>
    rw [List.foldl_cons, ih, add_eq hkeys, getLast?_filterMap_cons, getLast?_filterMap_cons,
      Option.getD_or, Option.getD_or]

/-- **What is read of a report is what it gives**: block size and extent are known exactly if the
report gives both numbers and their product fits a word. -/
theorem extent?_read (hkeys : r.sizeKey ≠ r.countKey) {size total : Nat} :
    (r.read report).extent? = some (size, total) ↔ ∃ count, r.Gives report r.sizeKey size ∧
      r.Gives report r.countKey count ∧ size * count < UInt64.size ∧ size * count = total := by
  have hread : r.read report = ⟨(r.numbers report r.sizeKey).getLast?.getD none,
      (r.numbers report r.countKey).getLast?.getD none⟩ := foldl_add hkeys _ _
  have hgives : ∀ key number, (r.numbers report key).getLast?.getD none = some number ↔
      r.Gives report key number := by
    intro key number
    rw [gives_iff]
    cases (r.numbers report key).getLast? <;> simp
  simp only [← hgives, hread]
  cases (r.numbers report r.sizeKey).getLast?.getD none with
  | none => simp [Blocks.extent?]
  | some first =>
    cases (r.numbers report r.countKey).getLast?.getD none with
    | none => simp [Blocks.extent?]
    | some second =>
      by_cases hfits : first * second < UInt64.size
      · simp only [Blocks.extent?, if_pos hfits, Option.some.injEq, Prod.mk.injEq]
        constructor
        · rintro ⟨rfl, htotal⟩
          exact ⟨second, rfl, rfl, hfits, htotal⟩
        · rintro ⟨count, rfl, rfl, -, htotal⟩
          exact ⟨rfl, htotal⟩
      · simp only [Blocks.extent?, if_neg hfits]
        refine iff_of_false nofun ?_
        rintro ⟨count, hfirst, hsecond, hfits', -⟩
        obtain rfl := Option.some.inj hfirst
        obtain rfl := Option.some.inj hsecond
        exact hfits hfits'

end BlockReport

/-! ## The questions of a growth -/

/-- The command that asks for the size of a device. -/
def sizeCommand (device : Path) (timeout : Span) : Command :=
  ⟨"blockdev", ["--getsize64", device.text], none, timeout⟩

namespace Family

/-- The formats of a family. -/
def formats : Family → List Text
  | .ext => ["ext2", "ext3", "ext4"]
  | .xfs => ["xfs"]

theorem of?_eq_some_iff {format : Text} {family : Family} :
    of? format = some family ↔ format ∈ family.formats := by
  constructor
  · intro h
    rw [of?] at h
    by_cases hext : (format = "ext2" || format = "ext3" || format = "ext4") = true
    · rw [if_pos hext] at h
      obtain rfl := Option.some.inj h
      simpa [formats, or_assoc] using hext
    · rw [if_neg hext] at h
      by_cases hxfs : format = "xfs"
      · rw [if_pos hxfs] at h
        obtain rfl := Option.some.inj h
        exact List.mem_singleton.mpr hxfs
      · rw [if_neg hxfs] at h
        cases h
  · have hall : ∀ format ∈ family.formats, of? format = some family := by
      cases family <;> decide
    exact hall format

/-- The report on the blocks of a filesystem. -/
def report : Family → BlockReport
  | .ext => extReport
  | .xfs => xfsReport

theorem keys_ne (family : Family) : family.report.sizeKey ≠ family.report.countKey := by
  cases family <;> decide

/-- The command that asks for the report: on the device, or on the mounted filesystem. -/
def blocksCommand (device mountPath : Path) (timeout : Span) : Family → Command
  | .ext => ⟨"dumpe2fs", ["-h", device.text], none, timeout⟩
  | .xfs => ⟨"xfs_io", ["-c", "statfs", mountPath.text], none, timeout⟩

/-- The complaint about a report that lacks a number. -/
def complaint (device mountPath : Path) : Family → Text
  | .ext => "Failed to read ext filesystem size of " ++ device.text
  | .xfs => "Failed to read xfs filesystem size of " ++ mountPath.text

/-- What is asked to grow a filesystem of the family, if nothing fails. -/
def questions (device mountPath : Path) (timeout : Span) (family : Family) : List KernelCall :=
  [.run (probeCommand device timeout), .run (sizeCommand device timeout),
    .run (family.blocksCommand device mountPath timeout),
    .run (growCommand device mountPath timeout family)]

/-- The four commands are four programs. -/
theorem questions_nodup (device mountPath : Path) (timeout : Span) (family : Family) :
    (family.questions device mountPath timeout).Nodup := by
  have hprograms : ((family.questions device mountPath timeout).map fun
      | .run c => c.program
      | _ => []).Nodup := by
    cases family
    · show (["blkid", "blockdev", "dumpe2fs", "resize2fs"] : List Text).Nodup
      decide
    · show (["blkid", "blockdev", "xfs_io", "xfs_growfs"] : List Text).Nodup
      decide
  refine (List.pairwise_map.mp hprograms).imp fun hne heq => hne ?_
  rw [heq]

end Family

/-- What is answered to the size command comes to a size, or to a failure. -/
def sized : Except HostError Text → Except HostError Nat
  | .error e => .error e
  | .ok output =>
    match Numeral.readWord 64 (trim output) with
    | .ok size => .ok size
    | .error e => .error (.unexpected
        ("Unexpected blockdev output " ++ Quoted.encode output ++ ": " ++ e.message))

/-- What is answered to the blocks command comes to an extent, or to a failure. -/
def measured (device mountPath : Path) (family : Family) :
    Except HostError Text → Except HostError (Nat × Nat)
  | .error e => .error e
  | .ok report =>
    match (family.report.read report).extent? with
    | some extent => .ok extent
    | none => .error (.unexpected (family.complaint device mountPath))

section
variable {device mountPath : Path} {timeout : Span}

end

/-! ## The courses of a growth -/

variable {device mountPath : Path} {timeout : Span} {exchanges : List (Exchange KernelCall.Answer)}
variable {result : Except HostError Bool}

/-- **The courses of a growth**, each to its end and with its result. -/
inductive GrowCourse (device mountPath : Path) (timeout : Span) :
    List (Exchange KernelCall.Answer) → Except HostError Bool → Prop
  | noFormat {probed : Except HostError Text} {e : HostError} (hformat : found probed = .error e) :
      GrowCourse device mountPath timeout
        [⟨.run (probeCommand device timeout), probed⟩] (.error e)
  | noSize {probed size : Except HostError Text} {format : Text} {e : HostError}
      (hformat : found probed = .ok format) (hsize : sized size = .error e) :
      GrowCourse device mountPath timeout
        [⟨.run (probeCommand device timeout), probed⟩, ⟨.run (sizeCommand device timeout), size⟩]
        (.error e)
  /-- The device holds no filesystem that can grow. -/
  | unsupported {probed size : Except HostError Text} {format : Text} {D : Nat}
      (hformat : found probed = .ok format) (hsize : sized size = .ok D)
      (hfamily : Family.of? format = none) :
      GrowCourse device mountPath timeout
        [⟨.run (probeCommand device timeout), probed⟩, ⟨.run (sizeCommand device timeout), size⟩]
        (.error (.unexpected ("Resize of filesystem format " ++ Quoted.encode format ++ " on " ++
          device.text ++ " is not supported")))
  | noBlocks {probed size blocks : Except HostError Text} {format : Text} {family : Family}
      {D : Nat} {e : HostError} (hformat : found probed = .ok format)
      (hsize : sized size = .ok D) (hfamily : Family.of? format = some family)
      (hblocks : measured device mountPath family blocks = .error e) :
      GrowCourse device mountPath timeout
        [⟨.run (probeCommand device timeout), probed⟩, ⟨.run (sizeCommand device timeout), size⟩,
          ⟨.run (family.blocksCommand device mountPath timeout), blocks⟩]
        (.error e)
  | full {probed size blocks : Except HostError Text} {format : Text} {family : Family}
      {D : Nat} {extent : Nat × Nat} (hformat : found probed = .ok format)
      (hsize : sized size = .ok D) (hfamily : Family.of? format = some family)
      (hblocks : measured device mountPath family blocks = .ok extent)
      (hroom : hasRoom D extent = false) :
      GrowCourse device mountPath timeout
        [⟨.run (probeCommand device timeout), probed⟩, ⟨.run (sizeCommand device timeout), size⟩,
          ⟨.run (family.blocksCommand device mountPath timeout), blocks⟩]
        (.ok false)
  | grown {probed size blocks : Except HostError Text} {format : Text} {family : Family}
      {D : Nat} {extent : Nat × Nat} (answer : Except HostError Text)
      (hformat : found probed = .ok format) (hsize : sized size = .ok D)
      (hfamily : Family.of? format = some family)
      (hblocks : measured device mountPath family blocks = .ok extent)
      (hroom : hasRoom D extent = true) :
      GrowCourse device mountPath timeout
        [⟨.run (probeCommand device timeout), probed⟩, ⟨.run (sizeCommand device timeout), size⟩,
          ⟨.run (family.blocksCommand device mountPath timeout), blocks⟩,
          ⟨.run (growCommand device mountPath timeout family), answer⟩]
        (answer.map fun _ => true)

theorem hasRoom_iff {D b n : Nat} : hasRoom D (b, b * n) = true ↔ b * n + b < D := by
  rw [hasRoom, decide_eq_true_eq]
  omega

theorem sized_eq_ok_iff {answer : Except HostError Text} {D : Nat} :
    sized answer = .ok D ↔
      ∃ output, answer = .ok output ∧ Numeral.readWord 64 (trim output) = .ok D := by
  rcases answer with e | output
  · simp [sized]
  · rw [sized]
    cases hread : Numeral.readWord 64 (trim output) <;> simp [hread]

theorem measured_eq_ok_iff {family : Family} {answer : Except HostError Text} {b total : Nat} :
    measured device mountPath family answer = .ok (b, total) ↔
      ∃ report, answer = .ok report ∧ ∃ n, family.report.Gives report family.report.sizeKey b ∧
        family.report.Gives report family.report.countKey n ∧ b * n < UInt64.size ∧
        b * n = total := by
  rcases answer with e | report
  · simp [measured]
  · simp only [Except.ok.injEq, exists_eq_left', ← BlockReport.extent?_read family.keys_ne]
    rw [measured]
    cases (family.report.read report).extent? <;> simp

theorem found_family_iff {answer : Except HostError Text} {family : Family} :
    (∃ format, found answer = .ok format ∧ Family.of? format = some family) ↔
      ∃ report, answer = .ok report ∧ (Signatures.read report).format ∈ family.formats := by
  simp only [Family.of?_eq_some_iff]
  constructor
  · rintro ⟨format, hfound, hformat⟩
    rcases answer with e | report
    -- A device on which nothing is found has the empty format, and that is of no family.
    · have hblank : format = [] := by
        cases e with
        | commandFailed line code complaint =>
          by_cases hcode : code = some nothingFound
          · simpa [found, hcode] using hfound.symm
          · simp [found, hcode] at hfound
        | _ => cases hfound
      subst hblank
      cases family <;> exact absurd hformat (by decide)
    · exact ⟨report, rfl, Except.ok.inj hfound ▸ hformat⟩
  · rintro ⟨report, rfl, hformat⟩
    exact ⟨_, rfl, hformat⟩

variable {answers : (call : KernelCall) → call.Answer} {family : Family} {D b n : Nat}

/-- **What has to be known to grow**: by these answers the probe names a format of the family, the
size of the device is `D`, and the filesystem has `n` blocks of size `b`, in all less than a word
can count. -/
structure Tells (answers : (call : KernelCall) → call.Answer) (device mountPath : Path)
    (timeout : Span) (family : Family) (D b n : Nat) : Prop where
  format : ∃ report, answers (.run (probeCommand device timeout)) = .ok report ∧
    (Signatures.read report).format ∈ family.formats
  size : ∃ output, answers (.run (sizeCommand device timeout)) = .ok output ∧
    Numeral.readWord 64 (trim output) = .ok D
  blocks : ∃ report, answers (.run (family.blocksCommand device mountPath timeout)) = .ok report ∧
    family.report.Gives report family.report.sizeKey b ∧
    family.report.Gives report family.report.countKey n
  fits : b * n < UInt64.size

namespace Tells

variable (h : Tells answers device mountPath timeout family D b n)
variable (hsteady : ∀ x ∈ exchanges, x.answer = answers x.question)
include h hsteady

theorem found {probed : Except HostError Text}
    (hmem : ⟨.run (probeCommand device timeout), probed⟩ ∈ exchanges) :
    ∃ format, Device.found probed = .ok format ∧ Family.of? format = some family := by
  obtain rfl : probed = answers (.run (probeCommand device timeout)) := hsteady _ hmem
  exact found_family_iff.mpr h.format

theorem family_eq {probed : Except HostError Text} {format : Text}
    (hmem : ⟨.run (probeCommand device timeout), probed⟩ ∈ exchanges)
    (hformat : Device.found probed = .ok format) : Family.of? format = some family := by
  obtain ⟨other, hfound, hfamily⟩ := h.found hsteady hmem
  rw [Except.ok.inj (hformat.symm.trans hfound), hfamily]

theorem sized {answer : Except HostError Text}
    (hmem : ⟨.run (sizeCommand device timeout), answer⟩ ∈ exchanges) :
    Device.sized answer = .ok D := by
  obtain rfl : answer = answers (.run (sizeCommand device timeout)) := hsteady _ hmem
  exact sized_eq_ok_iff.mpr h.size

theorem measured {answer : Except HostError Text}
    (hmem : ⟨.run (family.blocksCommand device mountPath timeout), answer⟩ ∈ exchanges) :
    Device.measured device mountPath family answer = .ok (b, b * n) := by
  obtain rfl : answer = answers (.run (family.blocksCommand device mountPath timeout)) :=
    hsteady _ hmem
  obtain ⟨report, hreport, hsize, hcount⟩ := h.blocks
  exact measured_eq_ok_iff.mpr ⟨report, hreport, n, hsize, hcount, h.fits, rfl⟩

end Tells

/-- The command of the call grows a filesystem. -/
def Grows : KernelCall → Prop
  | .run c => c.program = "resize2fs" ∨ c.program = "xfs_growfs"
  | _ => False

theorem grows_growCommand (family : Family) :
    Grows (.run (growCommand device mountPath timeout family)) := by
  cases family
  · exact .inl rfl
  · exact .inr rfl

/-- Only the last command of a growth grows. -/
theorem not_grows_of_questions (mountPath : Path) (family : Family)
    (h : exchanges.map Exchange.question <+:
      [.run (probeCommand device timeout), .run (sizeCommand device timeout),
        .run (family.blocksCommand device mountPath timeout)]) :
    ∀ x ∈ exchanges, ¬ Grows x.question := by
  have hprograms : ∀ program ∈ (["blkid", "blockdev", "dumpe2fs", "xfs_io"] : List Text),
      ¬ (program = "resize2fs" ∨ program = "xfs_growfs") := by decide
  have hblocks : (family.blocksCommand device mountPath timeout).program ∈
      (["blkid", "blockdev", "dumpe2fs", "xfs_io"] : List Text) := by
    cases family <;> simp [Family.blocksCommand]
  intro x hx
  have hmem := h.subset (List.mem_map_of_mem hx)
  simp only [List.mem_cons, List.not_mem_nil, or_false] at hmem
  rcases hmem with hmem | hmem | hmem
  · rw [hmem]
    exact hprograms _ (.head _)
  · rw [hmem]
    exact hprograms _ (.tail _ (.head _))
  · rw [hmem]
    exact hprograms _ hblocks

namespace GrowCourse

/-- A growth asks its questions as far as it gets. -/
theorem questions_prefix (h : GrowCourse device mountPath timeout exchanges result) :
    ∃ family : Family,
      exchanges.map Exchange.question <+: family.questions device mountPath timeout := by
  cases h with
  | noFormat => exact ⟨.ext, List.prefix_append [_] _⟩
  | noSize | unsupported => exact ⟨.ext, List.prefix_append [_, _] _⟩
  | noBlocks | full => exact ⟨_, List.prefix_append [_, _, _] _⟩
  | grown => exact ⟨_, List.prefix_rfl⟩

theorem questions_nodup (h : GrowCourse device mountPath timeout exchanges result) :
    (exchanges.map Exchange.question).Nodup := by
  obtain ⟨family, hprefix⟩ := h.questions_prefix
  exact (family.questions_nodup device mountPath timeout).sublist hprefix.sublist

/-! ### What is told decides -/

section
variable (h : GrowCourse device mountPath timeout exchanges result)
variable (hsteady : ∀ x ∈ exchanges, x.answer = answers x.question)
include h hsteady

/-- **If all is told, the room decides**: without room nothing is done, and with room the command
that grows comes last and gives the result. -/
theorem of_tells (htells : Tells answers device mountPath timeout family D b n) :
    (D ≤ b * n + b ∧ result = .ok false ∧ ∀ x ∈ exchanges, ¬ Grows x.question) ∨
    (b * n + b < D ∧ ∃ before, exchanges = before ++
        [⟨.run (growCommand device mountPath timeout family), answers _⟩] ∧
      (∀ x ∈ before, ¬ Grows x.question) ∧ result =
        (answers (.run (growCommand device mountPath timeout family))).map fun _ => true) := by
  cases h with
  | noFormat hformat =>
    obtain ⟨_, hok, -⟩ := htells.found hsteady (.head _)
    cases hformat.symm.trans hok
  | noSize _ hsize => cases hsize.symm.trans (htells.sized hsteady (.tail _ (.head _)))
  | unsupported hformat _ hfamily =>
    cases hfamily.symm.trans (htells.family_eq hsteady (.head _) hformat)
  | noBlocks hformat _ hfamily hblocks =>
    obtain rfl := Option.some.inj (hfamily.symm.trans (htells.family_eq hsteady (.head _) hformat))
    cases hblocks.symm.trans (htells.measured hsteady (.tail _ (.tail _ (.head _))))
  | full hformat hsize hfamily hblocks hroom =>
    obtain rfl := Option.some.inj (hfamily.symm.trans (htells.family_eq hsteady (.head _) hformat))
    obtain rfl := Except.ok.inj (hsize.symm.trans (htells.sized hsteady (.tail _ (.head _))))
    obtain rfl := Except.ok.inj
      (hblocks.symm.trans (htells.measured hsteady (.tail _ (.tail _ (.head _)))))
    refine .inl ⟨?_, rfl, ?_⟩
    · rw [← Nat.not_lt, ← hasRoom_iff, hroom]
      exact Bool.false_ne_true
    · exact not_grows_of_questions mountPath _ List.prefix_rfl
  | grown answer hformat hsize hfamily hblocks hroom =>
    obtain rfl := Option.some.inj (hfamily.symm.trans (htells.family_eq hsteady (.head _) hformat))
    obtain rfl := Except.ok.inj (hsize.symm.trans (htells.sized hsteady (.tail _ (.head _))))
    obtain rfl := Except.ok.inj
      (hblocks.symm.trans (htells.measured hsteady (.tail _ (.tail _ (.head _)))))
    obtain rfl : answer = answers (.run (growCommand device mountPath timeout _)) :=
      hsteady _ (.tail _ (.tail _ (.tail _ (.head _))))
    refine .inr ⟨hasRoom_iff.mp hroom, [_, _, _], rfl, ?_, rfl⟩
    exact not_grows_of_questions mountPath _ List.prefix_rfl

/-- The answers tell all, or the growth fails before it grows. -/
theorem tells_or_failed :
    (∃ family D b n, Tells answers device mountPath timeout family D b n) ∨
      (∃ e, result = .error e) ∧ ∀ x ∈ exchanges, ¬ Grows x.question := by
  cases h with
  | noFormat =>
    exact .inr ⟨⟨_, rfl⟩, not_grows_of_questions mountPath .ext (List.prefix_append [_] _)⟩
  | noSize | unsupported =>
    exact .inr ⟨⟨_, rfl⟩, not_grows_of_questions mountPath .ext (List.prefix_append [_, _] _)⟩
  | noBlocks => exact .inr ⟨⟨_, rfl⟩, not_grows_of_questions mountPath _ List.prefix_rfl⟩
  | full hformat hsize hfamily hblocks | grown _ hformat hsize hfamily hblocks =>
    obtain ⟨report, hreport, hmem⟩ := found_family_iff.mp ⟨_, hformat, hfamily⟩
    obtain ⟨output, houtput, hread⟩ := sized_eq_ok_iff.mp hsize
    obtain ⟨blocks, hblocks, n, hgives, hcount, hfits, -⟩ := measured_eq_ok_iff.mp hblocks
    refine .inl ⟨_, _, _, n, ⟨report, ?_, hmem⟩, ⟨output, ?_, hread⟩, ⟨blocks, ?_, hgives, hcount⟩,
      hfits⟩
    · exact (hsteady _ (.head _)).symm.trans hreport
    · exact (hsteady _ (.tail _ (.head _))).symm.trans houtput
    · exact (hsteady _ (.tail _ (.tail _ (.head _)))).symm.trans hblocks

/-! ### The command that grows and the result -/

/-- With room the command of the family is the last one, and its answer the result. -/
theorem last_of_room (htells : Tells answers device mountPath timeout family D b n)
    (hroom : b * n + b < D) : ∃ before, exchanges = before ++
        [⟨.run (growCommand device mountPath timeout family), answers _⟩] ∧
      (∀ x ∈ before, ¬ Grows x.question) ∧ result =
        (answers (.run (growCommand device mountPath timeout family))).map fun _ => true :=
  (h.of_tells hsteady htells).elim (fun hfull => absurd hroom (Nat.not_lt.mpr hfull.1)) And.right

/-- A command that grows is the last one, and the answers call for it. -/
theorem of_grows {x : Exchange KernelCall.Answer} (hx : x ∈ exchanges) (hgrows : Grows x.question) :
    ∃ family D b n, Tells answers device mountPath timeout family D b n ∧ b * n + b < D ∧
      x = ⟨.run (growCommand device mountPath timeout family), answers _⟩ ∧ result =
        (answers (.run (growCommand device mountPath timeout family))).map fun _ => true := by
  rcases h.tells_or_failed hsteady with ⟨family, D, b, n, htells⟩ | ⟨-, hnone⟩
  · rcases h.of_tells hsteady htells with ⟨-, -, hnone⟩ | ⟨hroom, before, rfl, hnot, hresult⟩
    · exact absurd hgrows (hnone x hx)
    · refine ⟨family, D, b, n, htells, hroom, ?_, hresult⟩
      rcases List.mem_append.mp hx with hbefore | hlast
      · exact absurd hgrows (hnot x hbefore)
      · exact List.mem_singleton.mp hlast
  · exact absurd hgrows (hnone x hx)

theorem grows_iff : (∃ x ∈ exchanges, Grows x.question) ↔
    ∃ family D b n, Tells answers device mountPath timeout family D b n ∧ b * n + b < D := by
  constructor
  · rintro ⟨x, hx, hgrows⟩
    obtain ⟨family, D, b, n, htells, hroom, -⟩ := h.of_grows hsteady hx hgrows
    exact ⟨family, D, b, n, htells, hroom⟩
  · rintro ⟨family, D, b, n, htells, hroom⟩
    obtain ⟨before, rfl, -⟩ := h.last_of_room hsteady htells hroom
    exact ⟨_, List.mem_append_right _ (.head _), grows_growCommand family⟩

end

end GrowCourse

end ShareAgent.Device
