import ShareAgent.Mount.Table
import ShareAgent.Proofs.Mount.Escape
import ShareAgent.Proofs.Text.Lines
import ShareAgent.Proofs.Text.Numeral

/-! # The mount table is read back

The kernel prints one line for each record, with the fields between blanks; in the two paths it
escapes the blanks that it puts between fields, and no others.  Reading takes every blank to end a
field.  So each line gives one record, in order and with the right device number, but a path with
a *stray* blank, which the kernel leaves as it is, falls into runs, and what is read as the mount
point is the second of the runs of both paths together (`KernelRecord.asRead`).  The table is read
back exactly where that is the mount point in every record (`readTable_lines`).
-/
namespace ShareAgent.Mount

/-- A record of the mount table as the kernel holds it.  Paths are any text that begins at the root
of the tree; the fields that are not paths have no blanks. -/
structure KernelRecord where
  id : Nat
  parent : Nat
  major : UInt32
  minor : UInt32
  root : Text
  mountPoint : Text
  options : Text
  optional : List Text
  format : Text
  source : Text
  superOptions : Text
  root_absolute : root.head? = some '/'
  mountPoint_absolute : mountPoint.head? = some '/'
  format_ne_nil : format ≠ []
  solid : ∀ field ∈ options :: format :: source :: superOptions :: optional, ∀ c ∈ field,
    isBlank c = false

namespace KernelRecord

variable (r : KernelRecord)

/-- The device number as it is printed. -/
def device : Text := Text.ofNat r.major.toNat ++ ":" ++ Text.ofNat r.minor.toNat

/-- The fields up to the mount point. -/
def front : Text :=
  Text.ofNat r.id ++ " " ++ Text.ofNat r.parent ++ " " ++ r.device ++ " " ++ escape r.root ++ " " ++
    escape r.mountPoint

/-- The options of the mount. -/
def middle : Text := " " ++ r.options ++ r.optional.flatMap (' ' :: ·)

/-- The fields after the lone hyphen. -/
def back : Text := r.format ++ " " ++ r.source ++ " " ++ r.superOptions

/-- The line that the kernel prints. -/
def line : Text := r.front ++ r.middle ++ " - " ++ r.back ++ "\n"

/-- What the line says. -/
def record : MountRecord := ⟨⟨r.mountPoint⟩, DeviceNumber.make r.major.toNat r.minor.toNat⟩

/-- What is read as the mount point: the second run of both paths. -/
def pointRead : Text := ((runs r.root).tail ++ runs r.mountPoint).headD []

/-- What is read in the line. -/
def asRead : MountRecord := { r.record with mountPoint := ⟨r.pointRead⟩ }

/-- The mount point has no stray blanks, and the root has none before another run, unless that run
is the mount point. -/
def Clear : Prop :=
  (∀ c ∈ r.mountPoint, isStray c = false) ∧ ∀ run ∈ (runs r.root).tail.head?, run = r.mountPoint

end KernelRecord

variable {r : KernelRecord} {c : Char} {s t : Text}

/-! ## The lone hyphen -/

/-- The first lone hyphen is never found within `s`. -/
def Uncut (s : Text) : Prop :=
  ∀ t, Text.cutAt " - " (s ++ t) = (Text.cutAt " - " t).map fun (front, back) => (s ++ front, back)

theorem Uncut.append (hs : Uncut s) (ht : Uncut t) : Uncut (s ++ t) := by
  intro u
  rw [List.append_assoc, hs, ht, Option.map_map]
  simp only [Function.comp_def, List.append_assoc]

theorem uncut_of_not_mem (hs : ' ' ∉ s) : Uncut s := by
  intro t
  induction s with
  | nil => exact Option.map_id'.symm
  | cons c s ih =>
    have hprefix : ¬ (" - " : Text) <+: c :: (s ++ t) := by
      show ¬ [' ', '-', ' '] <+: c :: (s ++ t)
      rw [List.cons_prefix_cons]
      exact fun h => hs (h.1 ▸ .head _)
    rw [List.cons_append, Text.cutAt_cons_of_not_prefix hprefix, ih fun h => hs (.tail _ h),
      Option.map_map]
    rfl

/-- A field with the blank in front of it, if it does not begin with a hyphen. -/
theorem uncut_field (hs : ' ' ∉ s) (hne : s ≠ []) (hhyphen : s.head? ≠ some '-') :
    Uncut (" " ++ s) := by
  obtain ⟨c, others, rfl⟩ := List.exists_cons_of_ne_nil hne
  intro t
  have hprefix : ¬ (" - " : Text) <+: ' ' :: (c :: others ++ t) := by
    show ¬ [' ', '-', ' '] <+: ' ' :: c :: (others ++ t)
    rw [List.cons_prefix_cons, List.cons_prefix_cons]
    exact fun h => hhyphen (congrArg some h.2.1.symm)
  show Text.cutAt " - " (' ' :: (c :: others ++ t)) = _
  rw [Text.cutAt_cons_of_not_prefix hprefix, uncut_of_not_mem hs, Option.map_map]
  rfl

/-! ## The fields of a line -/

theorem not_mem_ofNat {n : Nat} (hc : c.isDigit = false) : c ∉ Text.ofNat n :=
  fun h => by simp [Numeral.isDigit_of_mem_ofNat h] at hc

theorem head?_ofNat {n : Nat} : (Text.ofNat n).head? ≠ some '-' :=
  fun h => not_mem_ofNat rfl (List.mem_of_head? h)

theorem head?_escape (ht : t.head? = some '/') : (escape t).head? = some '/' := by
  obtain ⟨rest, rfl⟩ := List.head?_eq_some_iff.mp ht
  rw [escape_cons]
  rfl

/-- A path with the blank in front of it. -/
theorem uncut_escape (ht : t.head? = some '/') : Uncut (" " ++ escape t) := by
  have hhead := head?_escape ht
  refine uncut_field (not_mem_escape (by decide) (by decide) t) ?_ ?_
  · rintro hnil
    simp [hnil] at hhead
  · rw [hhead]
    decide

theorem runs_ne_nil_of_absolute (ht : t.head? = some '/') : runs t ≠ [] :=
  runs_ne_nil (List.mem_of_head? ht) (by decide)

namespace KernelRecord

theorem isBlank_of_mem_device (hc : c ∈ r.device) : isBlank c = false := by
  simp only [device, List.mem_append] at hc
  rcases hc with (hc | hc) | hc
  · exact Numeral.isBlank_of_mem_ofNat hc
  · rw [List.mem_singleton.mp hc]
    decide
  · exact Numeral.isBlank_of_mem_ofNat hc

theorem device_ne_nil : r.device ≠ [] := by
  simp [device, Numeral.ofNat_ne_nil]

theorem head?_device : r.device.head? ≠ some '-' := by
  obtain ⟨c, rest, hdigits⟩ :=
    List.exists_cons_of_ne_nil (Numeral.ofNat_ne_nil (n := r.major.toNat))
  have hhead : r.device.head? = (Text.ofNat r.major.toNat).head? := by
    rw [device, hdigits]
    rfl
  rw [hhead]
  exact head?_ofNat

theorem front_eq : r.front = Text.ofNat r.id ++ (" " ++ Text.ofNat r.parent) ++ (" " ++ r.device) ++
    (" " ++ escape r.root) ++ (" " ++ escape r.mountPoint) := by
  simp only [front, List.append_assoc]

/-- No field up to the mount point is a lone hyphen. -/
theorem uncut_front : Uncut r.front := by
  have hdevice : ' ' ∉ r.device := fun h => absurd (isBlank_of_mem_device h) (by decide)
  rw [front_eq]
  exact ((((uncut_of_not_mem (not_mem_ofNat rfl)).append
    (uncut_field (not_mem_ofNat rfl) Numeral.ofNat_ne_nil head?_ofNat)).append
      (uncut_field hdevice device_ne_nil head?_device)).append
        (uncut_escape r.root_absolute)).append (uncut_escape r.mountPoint_absolute)

/-- The words up to the mount point. -/
theorem words_front (hs : s = [] ∨ s.head? = some ' ') : ∃ others,
    Text.words (r.front ++ s) = Text.ofNat r.id :: Text.ofNat r.parent :: r.device ::
      ((runs r.root ++ runs r.mountPoint).map escape ++ others) := by
  have hnumeral : ∀ n, Text.words (Text.ofNat n) = [Text.ofNat n] := fun n =>
    Text.words_eq_singleton (fun _ => Numeral.isBlank_of_mem_ofNat) Numeral.ofNat_ne_nil
  have hdevice : Text.words r.device = [r.device] :=
    Text.words_eq_singleton (fun _ => isBlank_of_mem_device) device_ne_nil
  have hpoint : ∃ others,
      Text.words (escape r.mountPoint ++ s) = (runs r.mountPoint).map escape ++ others := by
    rcases hs with rfl | hs
    · exact ⟨[], by rw [List.append_nil, List.append_nil, words_escape]⟩
    · obtain ⟨rest, rfl⟩ := List.head?_eq_some_iff.mp hs
      exact ⟨Text.words rest, by rw [Text.words_append_cons (by decide), words_escape]⟩
  obtain ⟨others, hothers⟩ := hpoint
  have hfields : r.front ++ s = Text.ofNat r.id ++ ' ' :: (Text.ofNat r.parent ++ ' ' ::
      (r.device ++ ' ' :: (escape r.root ++ ' ' :: (escape r.mountPoint ++ s)))) := by
    simp only [front, List.append_assoc]
    rfl
  have hblank : isBlank ' ' = true := by decide
  refine ⟨others, ?_⟩
  rw [hfields, Text.words_append_cons hblank, Text.words_append_cons hblank,
    Text.words_append_cons hblank, Text.words_append_cons hblank, hnumeral, hnumeral, hdevice,
    words_escape, hothers, List.map_append, List.append_assoc]
  rfl

theorem readDeviceNumber_device :
    readDeviceNumber r.device = some (DeviceNumber.make r.major.toNat r.minor.toNat) := by
  have hcut : Text.cut ':' r.device =
      some (Text.ofNat r.major.toNat, Text.ofNat r.minor.toNat) := by
    rw [device, List.append_assoc]
    exact Text.cut_mark (not_mem_ofNat rfl) _
  have hword (n : UInt32) :
      (Numeral.readWord 32 (Text.ofNat n.toNat)).toOption = some n.toNat := by
    rw [Numeral.readWord_ofNat n.toNat_lt]
    rfl
  rw [readDeviceNumber, hcut]
  simp only [Option.bind_eq_bind, Option.bind_some, hword]
  rfl

/-- The second run of both paths is what is read as the mount point. -/
theorem exists_runs : ∃ first others,
    runs r.root ++ runs r.mountPoint = first :: r.pointRead :: others := by
  obtain ⟨first, rest, hroot⟩ :=
    List.exists_cons_of_ne_nil (runs_ne_nil_of_absolute r.root_absolute)
  obtain ⟨point, points, hpoint⟩ :=
    List.exists_cons_of_ne_nil (runs_ne_nil_of_absolute r.mountPoint_absolute)
  rw [pointRead, hroot, hpoint]
  cases rest with
  | nil => exact ⟨first, points, rfl⟩
  | cons second others => exact ⟨first, others ++ point :: points, rfl⟩

/-- **A line is read as one record.** -/
theorem readLine_line : readLine (r.front ++ r.middle ++ " - " ++ r.back) = some r.asRead := by
  obtain ⟨first, rest, hcut, hfirst, hrest⟩ :=
    Text.exists_cutAt (by decide : Text.ofString " - " ≠ []) r.middle r.back
  have hline : Text.cutAt " - " (r.front ++ r.middle ++ " - " ++ r.back) =
      some (r.front ++ first, rest) := by
    rw [List.append_assoc, List.append_assoc, ← List.append_assoc r.middle, uncut_front, hcut]
    rfl
  -- The part in front of the hyphen ends with the mount point or goes on with a blank.
  have hblank : first = [] ∨ first.head? = some ' ' := by
    cases first with
    | nil => exact .inl rfl
    | cons c first =>
      rw [middle, List.append_assoc] at hfirst
      exact .inr (congrArg some (List.cons_prefix_cons.mp hfirst).1)
  obtain ⟨others, hfront⟩ := words_front (r := r) hblank
  -- The part after it has the filesystem type at least.
  obtain ⟨c, format, hformat⟩ := List.exists_cons_of_ne_nil r.format_ne_nil
  have hc : isBlank c = false := r.solid r.format (by simp) c (by simp [hformat])
  have hmem : c ∈ rest := hrest.subset (by simp [back, hformat])
  obtain ⟨word, words, hback⟩ := List.exists_cons_of_ne_nil (Text.words_ne_nil hmem hc)
  obtain ⟨run, runs, hruns⟩ := exists_runs (r := r)
  rw [readLine, hline]
  simp only [hfront, hback, hruns, List.map_cons, List.cons_append, readDeviceNumber_device,
    unescape_escape, Option.map_some]
  rfl

theorem feed_not_mem_body : '\n' ∉ r.front ++ r.middle ++ " - " ++ r.back := by
  have hsolid : ∀ field ∈ r.options :: r.format :: r.source :: r.superOptions :: r.optional,
      '\n' ∉ field := fun field hfield h => absurd (r.solid field hfield _ h) (by decide)
  have hnumeral : ∀ n, '\n' ∉ Text.ofNat n := fun _ => not_mem_ofNat rfl
  have hescape : ∀ t, '\n' ∉ escape t := not_mem_escape (by decide) (by decide)
  have hoptional : '\n' ∉ r.optional.flatMap (' ' :: ·) := by
    intro h
    obtain ⟨field, hfield, hmem⟩ := List.mem_flatMap.mp h
    rcases List.mem_cons.mp hmem with hspace | hmem
    · exact absurd hspace (by decide)
    · exact hsolid field (by simp [hfield]) hmem
  have hspace : '\n' ∉ Text.ofString " " := by decide
  have hcolon : '\n' ∉ Text.ofString ":" := by decide
  have hhyphen : '\n' ∉ Text.ofString " - " := by decide
  simp [front, middle, back, device, hnumeral, hescape, hoptional, hspace, hcolon, hhyphen, hsolid]

/-- The line has no line feed in it, and no carriage return before its end. -/
theorem isLine_line : Text.IsLine r.line ∧
    Text.dropBreak r.line = r.front ++ r.middle ++ " - " ++ r.back := by
  refine ⟨⟨_, feed_not_mem_body, rfl⟩, Text.dropBreak_feed fun hlast => ?_⟩
  -- The last field has no blanks, and there is one in front of it.
  have hend : r.front ++ r.middle ++ " - " ++ r.back =
      (r.front ++ r.middle ++ " - " ++ (r.format ++ " " ++ r.source)) ++
        (' ' :: r.superOptions) := by
    simp only [back, List.append_assoc]
    rfl
  rw [hend, List.getLast?_append, List.getLast?_cons, Option.some_or] at hlast
  cases hsuper : r.superOptions.getLast? with
  | none =>
    rw [hsuper] at hlast
    exact absurd hlast (by decide)
  | some c =>
    rw [hsuper] at hlast
    obtain rfl : c = '\r' := Option.some.inj hlast
    exact absurd (r.solid r.superOptions (by simp) _ (List.mem_of_getLast? hsuper)) (by decide)

/-- What is read is right where the record is clear. -/
theorem asRead_eq_iff : r.asRead = r.record ↔ r.Clear := by
  have hpoint : r.asRead = r.record ↔ r.pointRead = r.mountPoint := by
    simp [asRead, record]
  rw [hpoint, pointRead, Clear]
  cases hroot : (runs r.root).tail with
  | nil =>
    obtain ⟨point, points, hpoints⟩ :=
      List.exists_cons_of_ne_nil (runs_ne_nil_of_absolute r.mountPoint_absolute)
    constructor
    · rw [hpoints]
      rintro (rfl : point = r.mountPoint)
      exact ⟨fun _ => isStray_of_mem_runs (hpoints ▸ List.mem_cons_self), nofun⟩
    · rintro ⟨hstray, -⟩
      have hne : r.mountPoint ≠ [] := by
        rintro hnil
        simpa [hnil] using r.mountPoint_absolute
      rw [runs_eq_singleton hstray hne]
      rfl
  | cons run others =>
    have hrun : run ∈ runs r.root := List.mem_of_mem_tail (hroot ▸ List.mem_cons_self)
    constructor
    · rintro (rfl : run = r.mountPoint)
      exact ⟨fun _ => isStray_of_mem_runs hrun, fun _ h => (Option.some.inj h).symm⟩
    · rintro ⟨-, hall⟩
      exact hall run rfl

/-- A record is clear if its paths have no stray blanks. -/
theorem clear_of_not_stray (h : ∀ c ∈ r.root ++ r.mountPoint, isStray c = false) : r.Clear := by
  obtain ⟨hroot, hpoint⟩ := List.forall_mem_append.mp h
  have hne : r.root ≠ [] := by
    rintro hnil
    simpa [hnil] using r.root_absolute
  refine ⟨hpoint, ?_⟩
  rw [runs_eq_singleton hroot hne]
  exact nofun

end KernelRecord

/-- **What is read in the kernel's mount table**: one record for each line, in order and with the
right device number.  The table is read back exactly if each record is clear. -/
theorem readTable_lines (rs : List KernelRecord) :
    readTable (rs.flatMap KernelRecord.line) = rs.map KernelRecord.asRead ∧
      (readTable (rs.flatMap KernelRecord.line) = rs.map KernelRecord.record ↔
        ∀ r ∈ rs, r.Clear) := by
  have hread : readTable (rs.flatMap KernelRecord.line) = rs.map KernelRecord.asRead := by
    have hlines : ∀ l ∈ rs.map KernelRecord.line, Text.IsLine l :=
      List.forall_mem_map.mpr fun r _ => KernelRecord.isLine_line.1
    have hline : ∀ r : KernelRecord, readLine (Text.dropBreak r.line) = some r.asRead := by
      intro r
      rw [KernelRecord.isLine_line.2, KernelRecord.readLine_line]
    rw [readTable, Text.lines, List.flatMap_def, Text.wholeLines_flatten hlines, List.map_map,
      List.filterMap_map]
    simp only [Function.comp_def, hline, List.filterMap_eq_map']
  refine ⟨hread, ?_⟩
  rw [hread, List.map_inj_left]
  exact forall_congr' fun r => imp_congr_right fun _ => KernelRecord.asRead_eq_iff

/-- A filesystem that is mounted on a path with a no-break space. -/
def spaced : KernelRecord where
  id := 36
  parent := 22
  major := 8
  minor := 16
  root := "/"
  mountPoint := "/export/a\u00A0b"
  options := "rw"
  optional := []
  format := "ext4"
  source := "/dev/sdb"
  superOptions := "rw"
  root_absolute := rfl
  mountPoint_absolute := rfl
  format_ne_nil := by decide
  solid := by
    have hall : (["rw", "ext4", "/dev/sdb", "rw"] : List Text).all (·.all (! isBlank ·)) := by
      decide
    simpa only [List.all_eq_true, Bool.not_eq_true'] using hall

/-- It is found mounted on the path that ends before that space. -/
theorem spaced_not_read_back :
    readTable ([spaced].flatMap KernelRecord.line) = [⟨⟨"/export/a"⟩, DeviceNumber.make 8 16⟩] ∧
      readTable ([spaced].flatMap KernelRecord.line) ≠ [spaced].map KernelRecord.record := by
  decide

end ShareAgent.Mount
