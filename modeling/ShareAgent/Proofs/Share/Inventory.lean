import ShareAgent.Export.Entry
import ShareAgent.Proofs.Path.Components
import ShareAgent.Proofs.Share.Life
import ShareAgent.Proofs.Share.Operation

/-! # Nothing is mounted or exported twice

A host keeps a mount table, in which several filesystems may be stacked on one path, and a list of
export entries (`Inventory`).  A mount adds a record behind the others and an unmount takes the last
one of its target away; an export is added only if the volume has none.  What is asked is answered
truthfully, and a step that fails leaves everything as it is (`Share.Stocked`).

An agent that takes over knows nothing of the host, and an unmount that fails is forgotten, so the
remembered state cannot keep a volume from being mounted twice.  What keeps it from that is that an
agent looks at the mount table right before it mounts.  Every step of an operation *keeps* the
inventory (`Share.Keeps`), a mount alone only where nothing is mounted yet; keeping is transitive,
so whole operations keep it, and whole lives do.
-/
namespace ShareAgent

/-- The list without the last element that satisfies `p`, if there is one. -/
def withoutLast {α : Type} (p : α → Bool) (l : List α) : List α := (l.reverse.eraseP p).reverse

section
variable {α : Type} {p : α → Bool} {l : List α}

theorem withoutLast_of_forall_not (h : ∀ a ∈ l, ¬ p a) : withoutLast p l = l := by
  have hnone : ∀ a ∈ l.reverse, ¬ p a := fun a ha => h a (List.mem_reverse.mp ha)
  rw [withoutLast, List.eraseP_of_forall_not hnone, List.reverse_reverse]

theorem filter_eraseP (p : α → Bool) (l : List α) : (l.eraseP p).filter p = (l.filter p).tail := by
  induction l with
  | nil => rfl
  | cons a l ih => by_cases h : p a <;> simp [h, ih]

theorem filter_not_eraseP (p : α → Bool) (l : List α) :
    (l.eraseP p).filter (! p ·) = l.filter (! p ·) := by
  induction l with
  | nil => rfl
  | cons a l ih => by_cases h : p a <;> simp [h, ih]

/-- One of the elements is gone, and it was the last of them. -/
theorem filter_withoutLast (p : α → Bool) (l : List α) :
    (withoutLast p l).filter p = (l.filter p).dropLast := by
  rw [withoutLast, List.filter_reverse, filter_eraseP, List.filter_reverse, List.tail_reverse,
    List.reverse_reverse]

/-- The others are left alone. -/
theorem filter_not_withoutLast (p : α → Bool) (l : List α) :
    (withoutLast p l).filter (! p ·) = l.filter (! p ·) := by
  rw [withoutLast, List.filter_reverse, filter_not_eraseP, List.filter_reverse,
    List.reverse_reverse]

end

/-- Where the paths of a host lead: a path that names something, to the path that the mount table
shows for it. -/
abbrev Places := Path → Option Path

/-- The filesystem is mounted on the path. -/
def MountRecord.isOn (places : Places) (path : Path) (r : MountRecord) : Bool :=
  (places path).any r.mountPoint.same

/-- What is mounted and exported on a host. -/
structure Inventory where
  /-- The mount table, in the order of mounting. -/
  mounts : List MountRecord
  exports : List Export.Entry
  deriving DecidableEq, Repr

namespace Inventory
variable (places : Places) (path : Path) (h : Inventory)

/-- The filesystems on the path, the last one on top. -/
def mountedOn : List MountRecord := h.mounts.filter (·.isOn places path)

/-- The filesystems elsewhere. -/
def mountedElsewhere : List MountRecord := h.mounts.filter (! ·.isOn places path)

/-- The exports of the path. -/
def exporting : List Export.Entry := h.exports.filter (·.path.same path)

/-- The exports of other paths. -/
def exportingOthers : List Export.Entry := h.exports.filter (! ·.path.same path)

end Inventory

namespace Share
open Dialogue

/-- **A host that keeps an inventory.**  Questions are answered truthfully.  A mount adds a record
for its target, an unmount takes the last one away; an export is added if the volume has none, and
otherwise found.  What fails has no effect. -/
def Stocked (s : Share) (places : Places) : Surroundings HostCall.Answer Inventory
  | .isMountPoint path, h, answer, h' =>
    (∀ mounted, answer = .ok mounted → mounted = h.mounts.any (·.isOn places path)) ∧ h' = h
  | .mountInfo path, h, answer, h' =>
    (∀ r, answer = .ok r → (h.mountedOn places path).getLast? = some r) ∧ h' = h
  | .mount _ target, h, answer, h' =>
    if answer.isOk then
      ∃ r : MountRecord, r.isOn places target ∧ h' = { h with mounts := h.mounts ++ [r] }
    else h' = h
  | .unmount target, h, answer, h' =>
    h' = if answer.isOk then { h with mounts := withoutLast (·.isOn places target) h.mounts } else h
  | .createExport volume, h, answer, h' =>
    match answer with
    | .error _ => h' = h
    | .ok id =>
      match h.exports.find? (·.path.same (s.settings.layout.mountPath volume)) with
      | some e => id = e.id ∧ h' = h
      | none => h' =
        { h with exports := h.exports ++ [.ofVolume id s.settings.layout.exportRoot volume] }
  | .deleteExport volume, h, answer, h' =>
    h' = if answer.isOk then
      { h with exports := h.exportingOthers (s.settings.layout.mountPath volume) } else h
  | _, h, _, h' => h' = h

variable {s : Share} {places : Places} {h h' h'' : Inventory} {α : Type}

/-! ## What a step on the volume does -/

@[simp] theorem stocked_serverRunning {running : Bool} :
    s.Stocked places .serverRunning h running h' ↔ h' = h := .rfl

@[simp] theorem stocked_pause {span : Span} :
    s.Stocked places (.pause span) h () h' ↔ h' = h := .rfl

@[simp] theorem stocked_isMountPoint_ok {path : Path} {mounted : Bool} :
    s.Stocked places (.isMountPoint path) h (.ok mounted) h' ↔
      mounted = h.mounts.any (·.isOn places path) ∧ h' = h := by
  show (∀ found, Except.ok mounted = .ok found → found = _) ∧ h' = h ↔ _
  simp

@[simp] theorem stocked_isMountPoint_error {path : Path} {e : HostError} :
    s.Stocked places (.isMountPoint path) h (.error e) h' ↔ h' = h := by
  show (∀ found, Except.error e = .ok found → found = _) ∧ h' = h ↔ _
  simp

@[simp] theorem stocked_mount_ok {device target : Path} :
    s.Stocked places (.mount device target) h (.ok ()) h' ↔
      ∃ r : MountRecord, r.isOn places target ∧ h' = { h with mounts := h.mounts ++ [r] } := .rfl

@[simp] theorem stocked_mount_error {device target : Path} {e : HostError} :
    s.Stocked places (.mount device target) h (.error e) h' ↔ h' = h := .rfl

@[simp] theorem stocked_unmount_ok {target : Path} :
    s.Stocked places (.unmount target) h (.ok ()) h' ↔
      h' = { h with mounts := withoutLast (·.isOn places target) h.mounts } := .rfl

@[simp] theorem stocked_unmount_error {target : Path} {e : HostError} :
    s.Stocked places (.unmount target) h (.error e) h' ↔ h' = h := .rfl

theorem stocked_createExport_found {volume : Text} {id : UInt16} {e : Export.Entry}
    (hfind : h.exports.find? (·.path.same (s.settings.layout.mountPath volume)) = some e) :
    s.Stocked places (.createExport volume) h (.ok id) h' ↔ id = e.id ∧ h' = h := by
  simp only [Stocked, hfind]

theorem stocked_createExport_new {volume : Text} {id : UInt16}
    (hnone : h.exports.find? (·.path.same (s.settings.layout.mountPath volume)) = none) :
    s.Stocked places (.createExport volume) h (.ok id) h' ↔ h' =
      { h with exports := h.exports ++ [.ofVolume id s.settings.layout.exportRoot volume] } := by
  simp only [Stocked, hnone]

theorem Stocked.unchanged (call : HostCall) (h : Inventory) (answer : call.Answer) (h' : Inventory)
    (hlook : call.Looks) (hstep : s.Stocked places call h answer h') : h' = h := by
  cases call with
  | isMountPoint | mountInfo => exact hstep.2
  | mount | unmount | createExport | deleteExport | reload => exact hlook.elim
  | _ => exact hstep

/-! ## Keeping the inventory -/

/-- Between `h` and `h'` nothing came to be mounted or exported twice for the volume, and nothing
else was touched. -/
structure Keeps (s : Share) (places : Places) (h h' : Inventory) : Prop where
  mounted : (h.mountedOn places s.mountPath).length ≤ 1 →
    (h'.mountedOn places s.mountPath).length ≤ 1
  exporting : (h.exporting s.mountPath).length ≤ 1 → (h'.exporting s.mountPath).length ≤ 1
  mountedElsewhere : h'.mountedElsewhere places s.mountPath = h.mountedElsewhere places s.mountPath
  exportingOthers : h'.exportingOthers s.mountPath = h.exportingOthers s.mountPath

theorem Keeps.refl (h : Inventory) : s.Keeps places h h := ⟨id, id, rfl, rfl⟩

theorem Keeps.trans (hfirst : s.Keeps places h h') (hsecond : s.Keeps places h' h'') :
    s.Keeps places h h'' where
  mounted := hsecond.mounted ∘ hfirst.mounted
  exporting := hsecond.exporting ∘ hfirst.exporting
  mountedElsewhere := hsecond.mountedElsewhere.trans hfirst.mountedElsewhere
  exportingOthers := hsecond.exportingOthers.trans hfirst.exportingOthers

/-- A filesystem is mounted where none is mounted yet. -/
theorem keeps_mount {r : MountRecord} (hnone : h.mountedOn places s.mountPath = [])
    (hr : r.isOn places s.mountPath) :
    s.Keeps places h { h with mounts := h.mounts ++ [r] } where
  mounted _ := by
    rw [Inventory.mountedOn] at hnone ⊢
    rw [List.filter_append, hnone, List.filter_cons_of_pos hr, List.filter_nil]
    exact Nat.le_refl 1
  exporting := id
  mountedElsewhere := by simp [Inventory.mountedElsewhere, hr]
  exportingOthers := rfl

theorem keeps_unmount :
    s.Keeps places h { h with mounts := withoutLast (·.isOn places s.mountPath) h.mounts } where
  mounted hle := by
    rw [Inventory.mountedOn, filter_withoutLast, List.length_dropLast]
    exact Nat.le_trans (Nat.sub_le _ _) hle
  exporting := id
  mountedElsewhere := filter_not_withoutLast _ _
  exportingOthers := rfl

/-- An export is added where none is found. -/
theorem keeps_createExport {e : Export.Entry} (hpath : e.path.same s.mountPath)
    (hnone : h.exports.find? (·.path.same s.mountPath) = none) :
    s.Keeps places h { h with exports := h.exports ++ [e] } where
  mounted := id
  exporting _ := by
    have hnil : h.exports.filter (·.path.same s.mountPath) = [] :=
      List.filter_eq_nil_iff.mpr (List.find?_eq_none.mp hnone)
    rw [Inventory.exporting, List.filter_append, hnil,
      List.filter_cons_of_pos (p := fun e : Export.Entry => e.path.same s.mountPath) hpath,
      List.filter_nil]
    exact Nat.le_refl 1
  mountedElsewhere := rfl
  exportingOthers := by simp [Inventory.exportingOthers, hpath]

theorem keeps_deleteExport :
    s.Keeps places h { h with exports := h.exportingOthers s.mountPath } where
  mounted := id
  exporting _ := by
    have hnil : (h.exportingOthers s.mountPath).filter (·.path.same s.mountPath) = [] := by
      simp [Inventory.exportingOthers, List.filter_filter]
    rw [Inventory.exporting, hnil]
    exact Nat.zero_le 1
  mountedElsewhere := rfl
  exportingOthers := by simp [Inventory.exportingOthers, List.filter_filter]

/-- The step concerns the volume, and mounts nothing. -/
def Tends (s : Share) : HostCall → Prop
  | .mount _ _ => False
  | .unmount target => target = s.mountPath
  | .createExport volume | .deleteExport volume => volume = s.volume.name
  | _ => True

/-- **Every step but a mount keeps the inventory.** -/
theorem Tends.keeps (call : HostCall) (h : Inventory) (answer : call.Answer) (h' : Inventory)
    (hcall : s.Tends call) (hstep : s.Stocked places call h answer h') : s.Keeps places h h' := by
  cases call with
  | mount => exact hcall.elim
  | unmount target =>
    obtain rfl := hcall
    rcases answer with e | ⟨⟩
    · rw [stocked_unmount_error.mp hstep]
      exact .refl h
    · rw [stocked_unmount_ok.mp hstep]
      exact keeps_unmount
  | createExport volume =>
    obtain rfl := hcall
    rcases answer with e | id
    · obtain rfl : h' = h := hstep
      exact .refl h'
    · cases hfind : h.exports.find? (·.path.same (s.settings.layout.mountPath s.volume.name)) with
      | some e =>
        rw [((stocked_createExport_found hfind).mp hstep).2]
        exact .refl h
      | none =>
        rw [(stocked_createExport_new hfind).mp hstep]
        exact keeps_createExport (Path.same_self _) hfind
  | deleteExport volume =>
    obtain rfl := hcall
    rcases answer with e | ⟨⟩
    · obtain rfl : h' = h := hstep
      exact .refl h'
    · obtain rfl : h' = { h with exports := h.exportingOthers s.mountPath } := hstep
      exact keeps_deleteExport
  | reload =>
    obtain rfl : h' = h := hstep
    exact .refl h'
  | _ =>
    rw [Stocked.unchanged _ h answer h' trivial hstep]
    exact .refl h

/-- A part of an operation that takes such steps only keeps the inventory. -/
theorem always_keeps {d : OnHost α} (hd : d.Asks s.Tends) :
    d.Always (s.Stocked places) (s.Keeps places h) (fun _ h' => s.Keeps places h h') h :=
  hd.always_related .refl (fun _ _ _ => .trans) Tends.keeps

/-! ## Operations -/

theorem tends_of_mem_unmountSteps {call : HostCall} (hcall : call ∈ s.unmountSteps) :
    s.Tends call := by
  simp only [unmountSteps, List.mem_cons, List.not_mem_nil, or_false] at hcall
  rcases hcall with rfl | rfl | rfl | rfl | rfl
  · exact rfl
  · trivial
  · trivial
  · exact rfl
  · trivial

theorem Tends.of_looks {call : HostCall} (hcall : call.Looks) : s.Tends call := by
  cases call with
  | mount | unmount | createExport | deleteExport | reload => exact hcall.elim
  | _ => trivial

theorem publish_tends : s.publish.run.Asks s.Tends :=
  Asks.run_bind (asks_orFail (asks_put rfl)) fun _ => asks_orFail (asks_put trivial)

/-- A volume is mounted only after nothing was found mounted. -/
theorem ensureMounted_keeps : s.ensureMounted.run.Always (s.Stocked places) (s.Keeps places h)
    (fun _ h' => s.Keeps places h h') h := by
  simp only [ensureMounted, always_run_bind, always_orFail, HostCall.onHost, always_put]
  rintro (e | mounted) h₁ hlook
  · obtain rfl := stocked_isMountPoint_error.mp hlook
    exact ⟨.refl h₁, .refl h₁⟩
  obtain ⟨hmounted, rfl⟩ := stocked_isMountPoint_ok.mp hlook
  refine ⟨.refl h₁, ?_⟩
  cases mounted with
  | true => exact .refl h₁
  | false =>
    have hnone : h₁.mountedOn places s.mountPath = [] :=
      List.filter_eq_nil_iff.mpr (by simpa using hmounted)
    rintro (e | ⟨⟩) h₂ hmount
    · obtain rfl := stocked_mount_error.mp hmount
      exact ⟨.refl h₂, .refl h₂⟩
    · obtain ⟨r, hr, rfl⟩ := stocked_mount_ok.mp hmount
      exact ⟨keeps_mount hnone hr, keeps_mount hnone hr⟩

theorem mountAndExport_keeps : s.mountAndExport.run.Always (s.Stocked places) (s.Keeps places h)
    (fun _ h' => s.Keeps places h h') h := by
  rw [mountAndExport, always_run_bind]
  refine ensureMounted_keeps.imp ?_
  rintro (e | ⟨⟩) h₁ hkept
  · exact hkept
  · exact (always_keeps publish_tends).mono (fun _ _ _ _ hw => hw) (fun _ => hkept.trans)
      fun _ _ => hkept.trans

/-- **One operation keeps the inventory after every step.** -/
theorem perform_keeps (op : Operation) (state : ShareState) :
    (s.perform op state).Always (s.Stocked places) (s.Keeps places h)
      (fun _ h' => s.Keeps places h h') h := by
  by_cases hbound : state = .unbound
  · rw [hbound, perform_unbound]
    exact .refl h
  cases op with
  | mount =>
    simp only [perform, hbound, if_false]
    rintro running h₁ hrunning
    obtain rfl := stocked_serverRunning.mp hrunning
    refine ⟨.refl h₁, ?_⟩
    dsimp only
    split
    · exact .refl h₁
    · refine always_bind.mpr (mountAndExport_keeps.imp ?_)
      rintro (e | ⟨⟩) h₂ hkept
      · exact hkept
      · exact hkept
  | unmount =>
    refine always_keeps ((perform_asks _ _).mono fun call hcall => ?_)
    rcases List.mem_cons.mp hcall with rfl | hmem
    · trivial
    · exact tends_of_mem_unmountSteps hmem
  | resize =>
    exact always_keeps ((perform_asks _ _).mono fun call hcall =>
      .of_looks (looks_of_mem_resizeSteps hcall))
  | trim encryptedDevice =>
    exact always_keeps ((perform_asks _ _).mono fun call hcall =>
      .of_looks (looks_of_mem_trimSteps hcall))

/-! ## Lives -/

variable {state state' : ShareState} {episodes : List Episode}

/-- A whole life keeps the inventory. -/
theorem Life.keeps (hlife : s.Life state episodes state')
    (hhost : (s.Stocked places).Follows h (transcript episodes) h') : s.Keeps places h h' := by
  induction hlife generalizing h with
  | ended state =>
    obtain rfl : h' = h := hhost
    exact .refl h'
  | performed hlead _ ih | interrupted hlead _ ih =>
    obtain ⟨middle, hfirst, hrest⟩ := (s.Stocked places).follows_append.mp hhost
    exact ((perform_keeps _ _).holds (.refl h) hlead hfirst).trans (ih hrest)
  | replaced _ ih => exact ih hhost

/-- **Nothing is mounted or exported twice, after every single step.**  `first` is what was asked of
the host up to some moment in the life of an agent and of those that took its place.  If at most one
filesystem was on the mount path at the beginning, then at most one is there now, and so for the
export entries of the volume; filesystems elsewhere and the exports of others are the same, in the
same order. -/
theorem single_throughout (hlife : s.Life state episodes state') {first : List HostExchange}
    (hfirst : first <+: transcript episodes) (hhost : (s.Stocked places).Follows h first h') :
    ((h.mountedOn places s.mountPath).length ≤ 1 →
      (h'.mountedOn places s.mountPath).length ≤ 1) ∧
    ((h.exporting s.mountPath).length ≤ 1 → (h'.exporting s.mountPath).length ≤ 1) ∧
    h'.mountedElsewhere places s.mountPath = h.mountedElsewhere places s.mountPath ∧
    h'.exportingOthers s.mountPath = h.exportingOthers s.mountPath := by
  obtain ⟨episodes', last, hpart, rfl⟩ := hlife.of_prefix hfirst
  have hkept := hpart.keeps hhost
  exact ⟨hkept.mounted, hkept.exporting, hkept.mountedElsewhere, hkept.exportingOthers⟩

/-- A mount whose export the server does not notice, and the mount of a fresh agent. -/
def resumed : List Episode :=
  [.performed .mount
      [⟨.serverRunning, true⟩, ⟨.isMountPoint sample.mountPath, .ok false⟩,
        ⟨.mount (sample.device false) sample.mountPath, .ok ()⟩,
        ⟨.createExport sample.volume.name, .ok 2⟩, ⟨.reload, .error (.exportFailed "no signal")⟩]
      (.error (failed "failed to reload nfs export" (.exportFailed "no signal"))),
    .replaced,
    .performed .mount
      [⟨.serverRunning, true⟩, ⟨.isMountPoint sample.mountPath, .ok true⟩,
        ⟨.createExport sample.volume.name, .ok 2⟩, ⟨.reload, .ok ()⟩]
      (.ok ())]

theorem resumed_life : sample.Life (.initial sample.volume) resumed .exported := by
  have hbroken : (sample.perform .mount (.initial sample.volume)).Leads
      [⟨.serverRunning, true⟩, ⟨.isMountPoint sample.mountPath, .ok false⟩,
        ⟨.mount (sample.device false) sample.mountPath, .ok ()⟩,
        ⟨.createExport sample.volume.name, .ok 2⟩, ⟨.reload, .error (.exportFailed "no signal")⟩]
      (.done (.error (failed "failed to reload nfs export" (.exportFailed "no signal")),
        .unmounted)) :=
    leads_ask.mpr (leads_ask.mpr (leads_ask.mpr (leads_ask.mpr (leads_ask.mpr (.here _)))))
  have hagain : (sample.perform .mount (.initial sample.volume)).Leads
      [⟨.serverRunning, true⟩, ⟨.isMountPoint sample.mountPath, .ok true⟩,
        ⟨.createExport sample.volume.name, .ok 2⟩, ⟨.reload, .ok ()⟩]
      (.done (.ok (), .exported)) :=
    leads_ask.mpr (leads_ask.mpr (leads_ask.mpr (leads_ask.mpr (.here _))))
  exact .performed hbroken (.replaced (.performed hagain (.ended _)))

/-- A host with another volume. -/
def shelf : Inventory := ⟨[⟨"/export/pvc-9", 2064⟩], [⟨1, "/export/pvc-9", "/pvc-9"⟩]⟩

/-- The same host with the volume beside it. -/
def fullShelf : Inventory :=
  ⟨shelf.mounts ++ [⟨"/export/pvc-1", 2065⟩], shelf.exports ++ [⟨2, "/export/pvc-1", "/pvc-1"⟩]⟩

/-- The fresh agent finds what the first one left, and there is one of each. -/
theorem single_resumed :
    (sample.Stocked some).Follows shelf (transcript resumed) fullShelf ∧
      (fullShelf.mountedOn some sample.mountPath).length ≤ 1 ∧
      (fullShelf.exporting sample.mountPath).length ≤ 1 := by
  have hhost : (sample.Stocked some).Follows shelf (transcript resumed) fullShelf := by
    refine ⟨shelf, rfl, shelf, ?_, ⟨shelf.mounts ++ [⟨"/export/pvc-1", 2065⟩], shelf.exports⟩, ?_,
      fullShelf, ?_, fullShelf, rfl, fullShelf, rfl, fullShelf, ?_, fullShelf, ?_, fullShelf, rfl,
      rfl⟩
    · exact stocked_isMountPoint_ok.mpr ⟨by decide, rfl⟩
    · exact stocked_mount_ok.mpr ⟨_, by decide, rfl⟩
    · exact (stocked_createExport_new (by decide)).mpr rfl
    · exact stocked_isMountPoint_ok.mpr ⟨by decide, rfl⟩
    · exact (stocked_createExport_found (e := ⟨2, "/export/pvc-1", "/pvc-1"⟩)
        (by decide)).mpr ⟨rfl, rfl⟩
  obtain ⟨hmounted, hexporting, -⟩ :=
    single_throughout resumed_life (List.prefix_refl _) hhost
  exact ⟨hhost, hmounted (by decide), hexporting (by decide)⟩

end Share
end ShareAgent
