import ShareAgent.Daemon.Record
import ShareAgent.Kernel
import ShareAgent.Share.Lifecycle

/-! # Starting the daemon

What the daemon does before it serves: it reads its options, prepares the directory that volumes are
mounted below, and reports. -/
namespace ShareAgent.Daemon

/-- What a start came to. -/
inductive Outcome
  /-- The daemon is ready to serve. -/
  | ready (share : Share) (address : Address)
  /-- The directory for mounts could not be created. -/
  | failed (layout : Layout) (e : SystemError)

/-- Prepares the directory for mounts, which an agent without a volume does not need. -/
def prepare (v : Volume) (layout : Layout) : OnKernel (Except SystemError Unit) :=
  if v.isBound then (KernelCall.makeDirectories layout.exportRoot).onKernel else .done (.ok ())

/-- Starts the daemon: the log records, and what it came to. -/
def start (o : Options) (layout : Layout) : OnKernel (List Record × Outcome) :=
  let v := o.volume
  let first := if v.isBound then [creatingRoot layout] else []
  (prepare v layout).bind fun
    | .error e => .done (first, .failed layout e)
    | .ok () =>
      .done (first ++ [starting v, managing v, listening o.listen],
        .ready ⟨v, o.settings layout⟩ o.listen)

/-- The filter that the environment asks for. What has not the form of a filter is passed over, but
nothing comes of a filter that tears characters. -/
def filterOf? (setting : Option Bytes) : Option LogFilter :=
  match (setting.bind Utf8.decode?).map LogFilter.read with
  | none => some .standard
  | some (.ok filter) => some filter
  | some (.error .malformed) => some .standard
  | some (.error .torn) => none

/-- The records that a filter lets through. -/
def shown (filter : LogFilter) (records : List Record) : List Record :=
  records.filter fun r => filter.lets r.part r.fieldNames r.level

/-- How a run of the daemon ended: as it was asked to inform, failed, refused, or broken off. -/
inductive Exit
  | informed
  | failed
  | refused
  | broken
  deriving DecidableEq, Repr

/-- The exit code of a run. -/
def Exit.code : Exit → Nat
  | .informed => 0
  | .failed => 1
  | .refused => 2
  | .broken => 101

/-- The variable that holds the log filter. -/
def filterVariable : Text := "RUST_LOG"

/-- The layout that an environment asks for. A value that is no text counts as none. -/
def layoutOf (environment : Text → Option Bytes) : Layout :=
  .ofEnvironment fun name => (environment name).bind Utf8.decode?

/-- A run of the daemon where its address cannot be bound: how it ends, and the log records that it
writes as JSON. -/
def run (environment : Text → Option Bytes) (arguments : List Bytes) :
    OnKernel (Exit × List Record) :=
  match Options.read (fun opt => environment opt.environmentName) arguments with
  | .help => .done (.informed, [])
  | .version => .done (.informed, [])
  | .refuse => .done (.refused, [])
  | .serve o =>
    match filterOf? (environment filterVariable) with
    | none => .done (.broken, [])
    | some filter =>
      (start o (layoutOf environment)).bind fun (records, _) =>
        .done (.failed, if o.logJson then shown filter records else [])

end ShareAgent.Daemon
