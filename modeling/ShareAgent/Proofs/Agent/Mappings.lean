import ShareAgent.Proofs.Agent.Tools
import ShareAgent.Proofs.Dialogue.Refine
import ShareAgent.Proofs.Path.Extension
import ShareAgent.Proofs.Share.Calls

/-! # Volumes that share a mapping

All mappings of a host stand side by side in one directory.  A volume of the first engine lends its
mapping its own name, one of the second engine its name and a mark, so names of volumes of one
engine never meet.  Those of two engines do if the first has the name of the second with the mark
(`SharesMapping`), and in no other way (`mappingName_eq_iff`).  The path of a mapping tells its name
(`join_same_iff`), and a resize addresses its mapping by one or the other.
-/
namespace ShareAgent
open Dialogue

variable {a b : Text} {e f : DataEngine}

/-! ## The names of mappings -/

/-- The two volumes have one mapping. -/
inductive SharesMapping : Text → DataEngine → Text → DataEngine → Prop
  | same (name : Text) (engine : DataEngine) : SharesMapping name engine name engine
  /-- A volume of the first engine is named as the mapping of one of the second. -/
  | marked (name : Text) : SharesMapping (name ++ "-encrypted") .v1 name .v2
  | unmarked (name : Text) : SharesMapping name .v2 (name ++ "-encrypted") .v1

theorem mappingName_eq_iff :
    Volume.mappingName a e = Volume.mappingName b f ↔ SharesMapping a e b f := by
  constructor
  · intro h
    cases e with
    | v1 =>
      cases f with
      | v1 =>
        obtain rfl : a = b := h
        exact .same a .v1
      | v2 =>
        obtain rfl : a = b ++ "-encrypted" := h
        exact .marked b
    | v2 =>
      cases f with
      | v1 =>
        obtain rfl : a ++ "-encrypted" = b := h
        exact .unmarked a
      | v2 =>
        obtain rfl : a = b := List.append_cancel_right h
        exact .same a .v2
  · rintro (_ | _ | _) <;> rfl

/-! ## The paths of mappings -/

namespace Path

/-- What a path puts before a name in it. -/
def beforeName (base : Path) : Text :=
  if base.text = [] then [] else if base.text.getLast? = some '/' then base.text
  else base.text ++ ['/']

theorem isDirectory_beforeName (base : Path) : IsDirectory base.beforeName := by
  rw [beforeName]
  split
  · exact .inl rfl
  · split
    · next hlast => exact .inr (List.getLast?_eq_some_iff.mp hlast)
    · exact .inr ⟨base.text, rfl⟩

theorem join_eq_append (base : Path) {t : Text} (ht : '/' ∉ t) :
    base.join t = ⟨base.beforeName ++ t⟩ := by
  unfold join
  split
  · exact (ht (.head _)).elim
  · split
    · next hlast => simp [beforeName, List.getLast?_eq_none_iff.mp hlast]
    · next hlast => simp [beforeName, hlast, List.ne_nil_of_mem (List.mem_of_getLast? hlast)]
    · next c hc hlast =>
      have hslash : c ≠ '/' := hc
      simp [beforeName, hlast, hslash, List.ne_nil_of_mem (List.mem_of_getLast? hlast)]

/-- **Names in a directory are told apart**, whatever the directory. -/
theorem join_same_iff (base : Path) (ha : IsFileName a) (hb : IsFileName b) :
    (base.join a).same (base.join b) ↔ a = b := by
  obtain ⟨above, habove⟩ := components_append base.isDirectory_beforeName
  rw [same_iff, join_eq_append base ha.slash, join_eq_append base hb.slash,
    habove a ha.slash ha.ne_here, habove b hb.slash hb.ne_here, ha.ofPiece, hb.ofPiece]
  simp

end Path

theorem isFileName_mappingName (ha : Path.IsFileName a) :
    Path.IsFileName (Volume.mappingName a e) := by
  cases e with
  | v1 => exact ha
  | v2 =>
    obtain ⟨c, rest, rfl⟩ := List.exists_cons_of_ne_nil ha.ne_nil
    have hslash : '/' ∉ Text.ofString "-encrypted" := by decide
    refine ⟨fun hmem => ?_, ?_, ?_, ?_⟩
    · exact (List.mem_append.mp hmem).elim ha.slash hslash
    all_goals
      intro h
      have hlength := congrArg List.length h
      simp [Volume.mappingName, Text.ofString] at hlength

/-- **Mappings have one path exactly if they have one name.** -/
theorem mappedDevice_same_iff (l : Layout) (ha : Path.IsFileName a) (hb : Path.IsFileName b) :
    (l.mappedDevice a e).same (l.mappedDevice b f) ↔ SharesMapping a e b f := by
  rw [Layout.mappedDevice, Layout.mappedDevice,
    Path.join_same_iff _ (isFileName_mappingName ha) (isFileName_mappingName hb),
    mappingName_eq_iff]

/-! ## The mapping that a resize addresses -/

/-- The step addresses the mapping of the volume, by its path or by its name. -/
def HostCall.AddressesMapping (l : Layout) (name : Text) (engine : DataEngine) : HostCall → Prop
  | .validateDevice device | .deviceNumber device | .resizeFilesystem device _ =>
    device.same (l.device name engine true)
  | .resizeMapping other otherEngine _ =>
    Volume.mappingName other otherEngine = Volume.mappingName name engine
  | _ => False

/-- The call runs the tool that manages mappings on the mapping of the volume. -/
def KernelCall.NamesMapping (name : Text) (engine : DataEngine) : KernelCall → Prop
  | .run c => c.program = mappingTool ∧ c.arguments.getLast? = some (Volume.mappingName name engine)
  | _ => False

variable {s : Share}

/-- A resize of an encrypted volume addresses its own mapping only. -/
theorem addresses_of_mem_resizeSteps (hs : Path.IsFileName s.volume.name)
    (hencrypted : s.volume.encrypted) (ha : Path.IsFileName a) {call : HostCall}
    (hcall : call ∈ s.resizeSteps) (haddresses : call.AddressesMapping s.settings.layout a e) :
    SharesMapping s.volume.name s.volume.engine a e := by
  have hdevice : s.device s.volume.encrypted =
      s.settings.layout.mappedDevice s.volume.name s.volume.engine := by
    rw [hencrypted]
    rfl
  simp only [Share.resizeSteps, Share.mappingSteps, List.mem_cons, List.mem_map] at hcall
  rcases hcall with rfl | rfl | rfl | rfl | ⟨passphrase, -, rfl⟩
  · exact (mappedDevice_same_iff _ hs ha).mp (hdevice ▸ haddresses)
  · exact haddresses.elim
  · exact haddresses.elim
  · exact (mappedDevice_same_iff _ hs ha).mp (hdevice ▸ haddresses)
  · exact mappingName_eq_iff.mp haddresses

theorem not_namesMapping_of_plain {call : KernelCall} (h : call.Plain) :
    ¬ call.NamesMapping a e := by
  cases call with
  | run c => exact fun hnames => h.2 hnames.1
  | _ => exact id

/-- The tool is run on the mapping of the volume that is given. -/
theorem resizeMapping_names (passphrase : Text) (timeout : Span) :
    (Device.resizeMapping a e passphrase timeout).run.Asks fun call =>
      call.NamesMapping b f → SharesMapping a e b f := by
  have hlast : ∀ (verb : Text) (input : Option Text), (KernelCall.run ⟨"cryptsetup",
      [verb, Volume.mappingName a e], input, timeout⟩).NamesMapping b f → SharesMapping a e b f :=
    fun _ _ hnames => mappingName_eq_iff.mp (Option.some.inj hnames.2)
  refine ⟨hlast _ _, ?_⟩
  rintro (error | output)
  · cases error <;> trivial
  · refine ⟨hlast _ _, ?_⟩
    rintro (error | _) <;> trivial

/-- A resize has its own mapping in hand only, also where it runs commands. -/
theorem performOnKernel_names (state : ShareState) :
    (s.performOnKernel .resize state).Asks fun call =>
      call.NamesMapping a e → SharesMapping s.volume.name s.volume.engine a e := by
  refine (Share.perform_asks .resize state).refine fun call hcall => ?_
  simp only [Share.steps, Share.resizeSteps, Share.mappingSteps, List.mem_cons,
    List.mem_map] at hcall
  have hplain : ∀ call : HostCall, call.Plain → (call.perform s.settings).Asks fun call =>
      call.NamesMapping a e → SharesMapping s.volume.name s.volume.engine a e :=
    fun _ hcall => (HostCall.perform_asks s.settings hcall).mono fun _ h hnames =>
      (not_namesMapping_of_plain h hnames).elim
  rcases hcall with rfl | rfl | rfl | rfl | ⟨passphrase, -, rfl⟩
  · exact hplain _ trivial
  · exact hplain _ trivial
  · exact hplain _ trivial
  · exact hplain _ trivial
  · exact resizeMapping_names passphrase _

/-- **Two encrypted volumes share a mapping exactly if they are the same, or are of different
engines and that of the first has the name of the other with the mark at its end.**  So a resize
addresses the mapping of another volume, by its path or by the name that the tool for mappings is
given, in that case only. -/
theorem mapping_shared_iff (hs : Path.IsFileName s.volume.name) (ha : Path.IsFileName a) :
    ((s.settings.layout.mappedDevice s.volume.name s.volume.engine).same
      (s.settings.layout.mappedDevice a e) ↔ SharesMapping s.volume.name s.volume.engine a e) ∧
    (s.volume.encrypted → ∀ state, (s.perform .resize state).Asks fun call =>
      call.AddressesMapping s.settings.layout a e →
        SharesMapping s.volume.name s.volume.engine a e) ∧
    ∀ state, (s.performOnKernel .resize state).Asks fun call =>
      call.NamesMapping a e → SharesMapping s.volume.name s.volume.engine a e := by
  refine ⟨mappedDevice_same_iff _ hs ha, ?_, performOnKernel_names⟩
  intro hencrypted state
  exact (Share.perform_asks .resize state).mono fun _ hcall =>
    addresses_of_mem_resizeSteps hs hencrypted ha hcall

/-- An encrypted volume of the second engine. -/
def marked : Share := ⟨⟨"pvc-1", .v2, true, none⟩, .standard .standard⟩

/-- It shares its mapping with a volume of the first engine, and not with one of its own. -/
theorem mapping_shared_marked :
    Path.IsFileName marked.volume.name ∧ Path.IsFileName "pvc-1-encrypted" ∧
    (marked.settings.layout.mappedDevice "pvc-1" .v2).same
      (marked.settings.layout.mappedDevice "pvc-1-encrypted" .v1) ∧
    ¬ (marked.settings.layout.mappedDevice "pvc-1" .v2).same
      (marked.settings.layout.mappedDevice "pvc-1-encrypted" .v2) ∧
    (marked.perform .resize .unmounted).Asks fun call =>
      ¬ call.AddressesMapping marked.settings.layout "pvc-1-encrypted" .v2 := by
  have hs : Path.IsFileName marked.volume.name := by decide
  have ha : Path.IsFileName "pvc-1-encrypted" := by decide
  have hother : ¬ SharesMapping "pvc-1" .v2 "pvc-1-encrypted" .v2 := fun h =>
    absurd (mappingName_eq_iff.mpr h) (by decide)
  obtain ⟨hfirst, -⟩ := mapping_shared_iff (e := .v1) hs ha
  obtain ⟨hsecond, hasks, -⟩ := mapping_shared_iff (e := .v2) hs ha
  refine ⟨hs, ha, hfirst.mpr (.unmarked "pvc-1"), fun hsame => hother (hsecond.mp hsame), ?_⟩
  exact (hasks rfl .unmounted).mono fun _ himp haddresses => hother (himp haddresses)

/-- **Two volumes with one mapping**: they have the same path for it, and a resize of one is run by
the same commands as a resize of the other. -/
theorem mapping_of_two_volumes :
    Path.IsFileName "pvc-1-encrypted" ∧ Path.IsFileName "pvc-1" ∧
    (Text.ofString "pvc-1-encrypted", DataEngine.v1) ≠ (Text.ofString "pvc-1", DataEngine.v2) ∧
    (Layout.standard.mappedDevice "pvc-1-encrypted" .v1).same
      (Layout.standard.mappedDevice "pvc-1" .v2) ∧
    Device.resizeMapping "pvc-1-encrypted" .v1 "secret" (.ofSeconds 60) =
      Device.resizeMapping "pvc-1" .v2 "secret" (.ofSeconds 60) :=
  ⟨by decide, by decide, by decide, by decide, rfl⟩

end ShareAgent
