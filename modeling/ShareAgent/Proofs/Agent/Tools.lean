import ShareAgent.Agent
import ShareAgent.Proofs.Dialogue.Asks

/-! # The commands of the host's tools

The tools that answer the steps of a share run commands of their own: probes, formatters and the
like.  None of them is given any input, and only the step that grows a mapping runs `cryptsetup`
(`HostCall.perform_asks`).  The tools for exports run none: they look for processes and signal them,
or they edit one file.
-/
namespace ShareAgent
open Dialogue

/-- The tool that manages the mappings of encrypted volumes. -/
def mappingTool : Text := "cryptsetup"

/-- A call that gives no command any input and leaves mappings alone. -/
def KernelCall.Plain : KernelCall → Prop
  | .run c => c.input = none ∧ c.program ≠ mappingTool
  | _ => True

/-- A step that gives no command any input and leaves mappings alone. -/
def HostCall.Plain : HostCall → Prop
  | .resizeMapping _ _ _ => False
  | .run c => (KernelCall.run c).Plain
  | _ => True

/-- A call that looks at files, directories or the mount table. -/
def KernelCall.Looks : KernelCall → Prop
  | .resolve _ | .mountTable | .fileStatus _ | .listDirectory _ => True
  | _ => False

/-- A call that looks for processes or signals one. -/
def KernelCall.Watches : KernelCall → Prop
  | .listDirectory _ | .readFile _ | .hangUp _ => True
  | _ => False

/-- A call that edits the file of an NFS server: it is read, and replaced by way of its draft. -/
def KernelCall.Edits (server : Export.Server) : KernelCall → Prop
  | .readFile path => path = server.config
  | .makeDirectories _ => True
  | .writeFile path _ => path = server.draft
  | .rename path target => path = server.draft ∧ target = server.config
  | _ => False

theorem KernelCall.Looks.plain {call : KernelCall} (h : call.Looks) : call.Plain := by
  cases call with
  | run => exact h.elim
  | _ => trivial

theorem KernelCall.Watches.plain {call : KernelCall} (h : call.Watches) : call.Plain := by
  cases call with
  | run => exact h.elim
  | _ => trivial

theorem KernelCall.Edits.plain {server : Export.Server} {call : KernelCall}
    (h : call.Edits server) : call.Plain := by
  cases call with
  | run => exact h.elim
  | _ => trivial

theorem KernelCall.plain_run {program : Text} {arguments : List Text} {timeout : Span}
    (h : program ≠ mappingTool) : (run ⟨program, arguments, none, timeout⟩).Plain :=
  ⟨rfl, h⟩

variable {p : KernelCall → Prop} {α ε : Type}

theorem HostTask.asks_call {blame : ε → HostError} {step : OnKernel (Except ε α)}
    (hstep : step.Asks p) : (HostTask.call blame step).run.Asks p :=
  hstep.bind fun _ => trivial

theorem HostTask.asks_system {step : OnKernel (Except SystemError α)} (hstep : step.Asks p) :
    (HostTask.system step).run.Asks p :=
  asks_call hstep

theorem HostTask.asks_lift {step : OnKernel α} (hstep : step.Asks p) :
    (ExceptT.lift step : HostTask α).run.Asks p :=
  hstep.bind fun _ => trivial

/-- A call that succeeds is a task that does. -/
theorem HostTask.leads_call {blame : ε → HostError} {step : OnKernel (Except ε α)} {a : α}
    {exchanges : List (Exchange KernelCall.Answer)} (h : step.Leads exchanges (.done (.ok a))) :
    (HostTask.call blame step).run.Leads exchanges (.done (.ok a)) :=
  leads_map.mpr ⟨_, h, rfl⟩

theorem HostTask.leads_lift {step : OnKernel α} {a : α}
    {exchanges : List (Exchange KernelCall.Answer)} (h : step.Leads exchanges (.done a)) :
    (ExceptT.lift step : HostTask α).run.Leads exchanges (.done (.ok a)) :=
  leads_map.mpr ⟨_, h, rfl⟩

/-! ## Mounts -/

namespace Mount

theorem resolve_asks (path : Path) : (resolve path).run.Asks KernelCall.Looks := by
  refine ⟨trivial, ?_⟩
  rintro (e | resolved)
  · by_cases he : e = .notFound
    · simp only [he, if_true]
      trivial
    · simp only [he, if_false]
      trivial
  · trivial

theorem records_asks : records.run.Asks KernelCall.Looks := by
  refine Asks.run_bind (HostTask.asks_system (asks_put trivial)) fun octets => ?_
  cases asText octets <;> trivial

theorem isMountPoint_asks (path : Path) : (isMountPoint path).run.Asks KernelCall.Looks := by
  refine Asks.run_bind (resolve_asks path) ?_
  rintro (_ | resolved)
  · trivial
  · exact Asks.run_bind records_asks fun _ => trivial

theorem info_asks (path : Path) : (info path).run.Asks KernelCall.Looks := by
  refine Asks.run_bind (resolve_asks path) ?_
  rintro (_ | resolved)
  · trivial
  · refine Asks.run_bind records_asks fun records => ?_
    cases records.reverse.find? fun m => m.mountPoint.same resolved <;> trivial

end Mount

/-! ## Devices -/

namespace Device

theorem format_asks (device : Path) (timeout : Span) :
    (format device timeout).run.Asks KernelCall.Plain := by
  refine ⟨KernelCall.plain_run (by decide), ?_⟩
  rintro (e | report)
  · cases e with
    | commandFailed line code complaint =>
      by_cases hcode : code = some nothingFound
      · simp only [hcode, if_true]
        trivial
      · simp only [hcode, if_false]
        trivial
    | _ => trivial
  · trivial

theorem size_asks (device : Path) (timeout : Span) :
    (size device timeout).run.Asks KernelCall.Plain := by
  refine Asks.run_bind (asks_put (KernelCall.plain_run (by decide))) fun output => ?_
  cases Numeral.readWord 64 (Text.trim output) <;> trivial

theorem extent_asks (device mountPath : Path) (timeout : Span) (family : Family) :
    (extent device mountPath timeout family).run.Asks KernelCall.Plain := by
  cases family with
  | ext =>
    refine Asks.run_bind (asks_put (KernelCall.plain_run (by decide))) fun report => ?_
    cases (extReport.read report).extent? <;> trivial
  | xfs =>
    refine Asks.run_bind (asks_put (KernelCall.plain_run (by decide))) fun report => ?_
    cases (xfsReport.read report).extent? <;> trivial

theorem grow_asks (device mountPath : Path) (timeout : Span) :
    (grow device mountPath timeout).run.Asks KernelCall.Plain := by
  refine Asks.run_bind (format_asks device timeout) fun format =>
    Asks.run_bind (size_asks device timeout) fun deviceSize => ?_
  cases Family.of? format with
  | none => trivial
  | some family =>
    refine Asks.run_bind (extent_asks device mountPath timeout family) fun extent => ?_
    by_cases hroom : hasRoom deviceSize extent
    · simp only [hroom, if_true]
      refine Asks.run_bind (asks_put ?_) fun _ => trivial
      cases family <;> exact KernelCall.plain_run (by decide)
    · simp only [hroom]
      trivial

theorem validate_asks (device : Path) : (validate device).run.Asks KernelCall.Looks := by
  refine Asks.run_bind (HostTask.asks_call (asks_put trivial)) fun status => ?_
  by_cases hkind : status.kind ≠ .blockDevice
  · rw [if_pos hkind]
    trivial
  · rw [if_neg hkind]
    trivial

theorem number_asks (device : Path) : (number device).run.Asks KernelCall.Looks :=
  Asks.run_bind (HostTask.asks_system (asks_put trivial)) fun _ => trivial

end Device

namespace Mount

theorem ensureFormat_asks (device : Path) (timeout : Span) :
    (ensureFormat device timeout).run.Asks KernelCall.Plain := by
  refine Asks.run_bind (Device.format_asks device timeout) fun format => ?_
  by_cases hblank : format = []
  · rw [if_pos hblank]
    exact Asks.run_bind (asks_put (KernelCall.plain_run (by decide))) fun _ => trivial
  · rw [if_neg hblank]
    trivial

theorem mount_asks (device target : Path) (timeout : Span) :
    (mount device target timeout).run.Asks KernelCall.Plain := by
  refine Asks.run_bind (HostTask.asks_system (asks_put trivial)) fun _ =>
    Asks.run_bind (ensureFormat_asks device timeout) fun format => ?_
  by_cases htable : format.contains ' '
  · simp only [htable, if_true]
    trivial
  · simp only [htable]
    exact HostTask.asks_call (asks_put trivial)

theorem unmount_asks (target : Path) : (unmount target).run.Asks KernelCall.Plain :=
  HostTask.asks_call (asks_put trivial)

end Mount

/-! ## Exports -/

namespace Export

theorem named_asks (root : Path) (shown : Text) (entries : List Text) :
    (named root shown entries).Asks KernelCall.Watches := by
  induction entries with
  | nil => trivial
  | cons entry rest ih =>
    unfold named
    cases Numeral.readInt 32 entry with
    | error _ => exact ih
    | ok process =>
      refine ⟨trivial, fun answer => ih.bind fun others => ?_⟩
      cases answer.bind Mount.asText <;> trivial

theorem processes_asks (root : Path) (name : Text) :
    (processes root name).run.Asks KernelCall.Watches :=
  Asks.run_bind (HostTask.asks_system (asks_put trivial)) fun _ =>
    Asks.run_bind (HostTask.asks_lift (named_asks _ _ _)) fun _ => trivial

namespace Server

variable (server : Server)

theorem sections_asks : server.sections.run.Asks (KernelCall.Edits server) :=
  ⟨rfl, fun _ => trivial⟩

theorem replace_asks (sections : List Section) :
    (server.replace sections).run.Asks (KernelCall.Edits server) := by
  refine Asks.run_bind ?_ fun _ =>
    Asks.run_bind (HostTask.asks_system (asks_put rfl)) fun _ =>
      HostTask.asks_system (asks_put ⟨rfl, rfl⟩)
  unfold makeDirectory
  cases server.config.parent with
  | none => trivial
  | some directory => exact HostTask.asks_system (asks_put trivial)

theorem create_asks (volume : Text) :
    (server.create volume).run.Asks (KernelCall.Edits server) := by
  refine Asks.run_bind server.sections_asks fun sections => ?_
  cases add server.exportRoot volume sections with
  | present _ => trivial
  | exhausted => trivial
  | added _ sections => exact Asks.run_bind (server.replace_asks sections) fun _ => trivial

theorem delete_asks (volume : Text) :
    (server.delete volume).run.Asks (KernelCall.Edits server) := by
  refine Asks.run_bind server.sections_asks fun sections => ?_
  cases remove? (server.exportRoot.join volume) sections with
  | none => trivial
  | some sections => exact server.replace_asks sections

theorem running_asks : server.running.Asks KernelCall.Watches := by
  refine (processes_asks _ _).bind fun found => ?_
  cases found <;> trivial

theorem signal_asks (processes : List Int) :
    (server.signal processes).run.Asks KernelCall.Watches := by
  induction processes with
  | nil => trivial
  | cons process rest ih =>
    exact Asks.run_bind (HostTask.asks_call (asks_put trivial)) fun _ => ih

theorem reload_asks : server.reload.run.Asks KernelCall.Watches := by
  refine Asks.run_bind (HostTask.asks_lift server.running_asks) fun found => ?_
  cases found with
  | nil => trivial
  | cons process rest => exact server.signal_asks (process :: rest)

theorem isRunning_asks : server.isRunning.Asks KernelCall.Watches :=
  server.running_asks.bind fun _ => trivial

end Server
end Export

/-- **The tools give no command any input and leave mappings alone**, the step that grows a mapping
apart. -/
theorem HostCall.perform_asks (settings : Settings) {call : HostCall} (hcall : call.Plain) :
    (call.perform settings).Asks KernelCall.Plain := by
  cases call with
  | isMountPoint path => exact (Mount.isMountPoint_asks path).mono fun _ => KernelCall.Looks.plain
  | mountInfo path => exact (Mount.info_asks path).mono fun _ => KernelCall.Looks.plain
  | mount device target => exact Mount.mount_asks device target _
  | unmount target => exact Mount.unmount_asks target
  | validateDevice device => exact (Device.validate_asks device).mono fun _ => KernelCall.Looks.plain
  | deviceNumber device => exact (Device.number_asks device).mono fun _ => KernelCall.Looks.plain
  | diskFormat device => exact Device.format_asks device _
  | resizeFilesystem device mountPath => exact Device.grow_asks device mountPath _
  | resizeMapping _ _ _ => exact hcall.elim
  | createExport volume =>
    exact (Export.Server.create_asks _ volume).mono fun _ => KernelCall.Edits.plain
  | deleteExport volume =>
    exact (Export.Server.delete_asks _ volume).mono fun _ => KernelCall.Edits.plain
  | reload => exact (Export.Server.reload_asks _).mono fun _ => KernelCall.Watches.plain
  | serverRunning => exact (Export.Server.isRunning_asks _).mono fun _ => KernelCall.Watches.plain
  | listDirectory path => exact (asks_put trivial).bind fun _ => trivial
  | run command => exact asks_put hcall
  | pause span => exact asks_put trivial

end ShareAgent
