import ShareAgent.Device.Format
import ShareAgent.Proofs.Dialogue.Transcript
import ShareAgent.Proofs.Text.Pieces

/-! # Which reports leave a device without a format

A report says `key=value` in some of its lines.  A device is *unsigned* if no line gives a type or
the type of a partition table, other than an empty one.  The reader keeps the last value that a key
is given and takes an empty type for none at all (`format_eq_nil_iff`).  So besides unsigned devices
there are *wiped* ones that it takes to be blank: their report names a signature, but the last type
in it is empty.
-/
namespace ShareAgent.Device
open Dialogue Text

/-- A line of the report, without the blanks at its ends, is `key=value`. -/
def Says (report key value : Text) : Prop :=
  ∃ line ∈ lines report, trim line = key ++ '=' :: value

/-- The report names neither a filesystem nor a partition table. -/
def Unsigned (report : Text) : Prop :=
  ∀ value, Says report "TYPE" value ∨ Says report "PTTYPE" value → value = []

/-- The value that a line gives to the key. -/
def value? (key line : Text) : Option Text :=
  match cut '=' (trim line) with
  | none => none
  | some (other, value) => if other = key then some value else none

/-- The values that a report gives to the key, in the order of its lines. -/
def values (report key : Text) : List Text := (lines report).filterMap (value? key)

/-- The report names a signature, and after all the type is empty. -/
def Wiped (report : Text) : Prop :=
  (values report "TYPE").getLast? = some [] ∧ ¬ Unsigned report

variable {report key value line : Text}

/-! ## What a report says -/

theorem value?_eq_some_iff (hkey : '=' ∉ key) :
    value? key line = some value ↔ trim line = key ++ '=' :: value := by
  rw [value?]
  constructor
  · intro h
    cases hcut : cut '=' (trim line) with
    | none => rw [hcut] at h; cases h
    | some parts =>
      obtain ⟨other, back⟩ := parts
      rw [hcut] at h
      by_cases hother : other = key
      · simp only [hother, if_true, Option.some.injEq] at h
        rw [(cut_eq_some_iff.mp hcut).2, hother, h]
      · simp only [hother, if_false] at h
        cases h
  · intro h
    rw [cut_eq_some_iff.mpr ⟨hkey, h⟩]
    exact if_pos rfl

theorem says_iff_mem_values (hkey : '=' ∉ key) :
    Says report key value ↔ value ∈ values report key := by
  simp only [Says, values, List.mem_filterMap, value?_eq_some_iff hkey]

theorem unsigned_iff : Unsigned report ↔
    (∀ value ∈ values report "TYPE", value = []) ∧
      ∀ value ∈ values report "PTTYPE", value = [] := by
  have htype : ∀ value, Says report "TYPE" value ↔ value ∈ values report "TYPE" :=
    fun _ => says_iff_mem_values (by decide)
  have htable : ∀ value, Says report "PTTYPE" value ↔ value ∈ values report "PTTYPE" :=
    fun _ => says_iff_mem_values (by decide)
  simp only [Unsigned, htype, htable]
  exact ⟨fun h => ⟨fun v hv => h v (.inl hv), fun v hv => h v (.inr hv)⟩,
    fun h v hv => hv.elim (h.1 v) (h.2 v)⟩

/-! ## What the reader finds -/

theorem add_eq (s : Signatures) (line : Text) : s.add line =
    ⟨(value? "TYPE" line).or s.filesystem, (value? "PTTYPE" line).or s.partitions⟩ := by
  rw [Signatures.add, value?, value?]
  cases cut '=' (trim line) with
  | none => rfl
  | some parts =>
    obtain ⟨key, value⟩ := parts
    by_cases htype : key = "TYPE"
    · subst htype
      rfl
    · by_cases htable : key = "PTTYPE"
      · subst htable
        rfl
      · simp [htype, htable]

/-- The last value is that of the rest, or else that of the first. -/
theorem getLast?_filterMap_cons {α β : Type} (f : α → Option β) (a : α) (l : List α) :
    ((a :: l).filterMap f).getLast? = (l.filterMap f).getLast?.or (f a) := by
  rw [List.getLast?_filterMap, List.getLast?_filterMap, List.reverse_cons, List.findSome?_append,
    List.findSome?_singleton]

theorem foldl_add (ls : List Text) (s : Signatures) : ls.foldl .add s =
    ⟨(ls.filterMap (value? "TYPE")).getLast?.or s.filesystem,
      (ls.filterMap (value? "PTTYPE")).getLast?.or s.partitions⟩ := by
  induction ls generalizing s with
  | nil => rfl
  | cons l ls ih =>
    rw [List.foldl_cons, ih, add_eq, getLast?_filterMap_cons, getLast?_filterMap_cons,
      Option.or_assoc, Option.or_assoc]

/-- The reader keeps the last value of each key. -/
theorem read_eq (report : Text) : Signatures.read report =
    ⟨(values report "TYPE").getLast?, (values report "PTTYPE").getLast?⟩ := by
  rw [Signatures.read, foldl_add, Option.or_none, Option.or_none]
  rfl

theorem format_of_type {last : Text} (h : (values report "TYPE").getLast? = some last) :
    (Signatures.read report).format = last := by
  rw [read_eq, h]
  rfl

theorem format_of_table {last : Text} (hnone : values report "TYPE" = [])
    (h : (values report "PTTYPE").getLast? = some last) :
    (Signatures.read report).format = last ++ " partition table" := by
  rw [read_eq, h, hnone]
  rfl

/-- **What is taken for a blank device.** -/
theorem format_eq_nil_iff : (Signatures.read report).format = [] ↔
    (values report "TYPE").getLast? = some [] ∨
      values report "TYPE" = [] ∧ values report "PTTYPE" = [] := by
  cases htype : (values report "TYPE").getLast? with
  | some last =>
    rw [format_of_type htype]
    have hne : values report "TYPE" ≠ [] := fun h => by rw [h] at htype; cases htype
    simp [hne]
  | none =>
    have hnone := List.getLast?_eq_none_iff.mp htype
    cases htable : (values report "PTTYPE").getLast? with
    | some last =>
      have hne : values report "PTTYPE" ≠ [] := fun h => by rw [h] at htable; cases htable
      rw [format_of_table hnone htable]
      refine iff_of_false (List.append_ne_nil_of_right_ne_nil _ (by decide)) ?_
      rintro (h | ⟨-, h⟩)
      · cases h
      · exact hne h
    | none =>
      have hnotable := List.getLast?_eq_none_iff.mp htable
      rw [read_eq, hnone, hnotable]
      simp [Signatures.format]

/-- A device that is taken for blank is unsigned or wiped. -/
theorem blank_cases (h : (Signatures.read report).format = []) :
    Unsigned report ∨ Wiped report := by
  by_cases hunsigned : Unsigned report
  · exact .inl hunsigned
  rcases format_eq_nil_iff.mp h with hlast | ⟨htype, htable⟩
  · exact .inr ⟨hlast, hunsigned⟩
  · refine absurd (unsigned_iff.mpr ⟨?_, ?_⟩) hunsigned
    · rw [htype]
      exact List.forall_mem_nil _
    · rw [htable]
      exact List.forall_mem_nil _

theorem Wiped.format_eq_nil (h : Wiped report) : (Signatures.read report).format = [] :=
  format_eq_nil_iff.mpr (.inl h.1)

/-- A partition table is not overlooked, except on a wiped device. -/
theorem blank_mem_format (htype : ∀ value, Says report "TYPE" value → value = [])
    (htable : Says report "PTTYPE" value) (hvalue : value ≠ []) (hwiped : ¬ Wiped report) :
    ' ' ∈ (Signatures.read report).format := by
  have hsigned : ¬ Unsigned report := fun h => hvalue (h value (.inr htable))
  have hnone : values report "TYPE" = [] := by
    rw [← List.getLast?_eq_none_iff]
    cases hlast : (values report "TYPE").getLast? with
    | none => rfl
    | some last =>
      have hmem := (says_iff_mem_values (by decide)).mpr (List.mem_of_getLast? hlast)
      rw [htype last hmem] at hlast
      exact absurd ⟨hlast, hsigned⟩ hwiped
  have hmem := (says_iff_mem_values (by decide)).mp htable
  obtain ⟨last, hlast⟩ : ∃ last, (values report "PTTYPE").getLast? = some last :=
    ⟨_, List.getLast?_eq_some_getLast (List.ne_nil_of_mem hmem)⟩
  rw [format_of_table hnone hlast]
  exact List.mem_append_right _ (by decide)

/-! ## The probe -/

/-- What a probe answers comes to a format, or to a failure. -/
def found : Except HostError Text → Except HostError Text
  | .ok report => .ok (Signatures.read report).format
  | .error (.commandFailed line code complaint) =>
    if code = some nothingFound then .ok [] else .error (.commandFailed line code complaint)
  | .error e => .error e

theorem format_run (device : Path) (timeout : Span) : (format device timeout).run =
    .ask (.run (probeCommand device timeout)) fun answer => .done (found answer) := by
  show Dialogue.ask _ _ = _
  refine congrArg _ (funext fun answer => ?_)
  rcases answer with e | report
  · cases e with
    | commandFailed line code complaint =>
      by_cases hcode : code = some nothingFound
      · simp only [found, hcode, if_true]
      · simp only [found, hcode, if_false]
    | _ => rfl
  · rfl

/-- **Exactly these answers of a probe stand for a blank device.** -/
theorem found_eq_nil_iff {answer : Except HostError Text} : found answer = .ok [] ↔
    (∃ line complaint, answer = .error (.commandFailed line (some nothingFound) complaint)) ∨
      ∃ report, answer = .ok report ∧ (Signatures.read report).format = [] := by
  rcases answer with e | report
  · cases e with
    | commandFailed line code complaint =>
      by_cases hcode : code = some nothingFound
      · simp [found, hcode]
      · simp [found, hcode]
    | _ => simp [found]
  · simp [found]

end ShareAgent.Device
