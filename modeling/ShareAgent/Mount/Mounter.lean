import ShareAgent.Device.Format
import ShareAgent.Mount.Table

/-! # Mounting on a real host

Queries of the mount table, and mounting a device after a look at what it holds: a blank one is
formatted first, one with a partition table is refused. -/
namespace ShareAgent.Mount

/-- The octets as text. -/
def asText (octets : Bytes) : Except SystemError Text :=
  match Utf8.decode? octets with
  | some text => .ok text
  | none => .error .notText

/-- The records of the mount table. -/
def records : HostTask (List MountRecord) := do
  let octets ← HostTask.system KernelCall.mountTable.onKernel
  match asText octets with
  | .ok table => return readTable table
  | .error e => throw (.system e)

/-- The path as the mount table shows it; a path that names nothing has no such form. -/
def resolve (path : Path) : HostTask (Option Path) :=
  ExceptT.mk <| .ask (.resolve path) fun
    | .ok resolved => .done (.ok (some resolved))
    | .error e => if e = .notFound then .done (.ok none) else .done (.error (.system e))

/-- Whether a filesystem is mounted on the path. -/
def isMountPoint (path : Path) : HostTask Bool := do
  match ← resolve path with
  | none => return false
  | some resolved => return (← records).any fun m => m.mountPoint.same resolved

/-- The filesystem mounted on the path; the last one if several are. -/
def info (path : Path) : HostTask MountRecord := do
  match ← resolve path with
  | none => throw (.notMounted path)
  | some resolved =>
    match (← records).reverse.find? fun m => m.mountPoint.same resolved with
    | none => throw (.notMounted path)
    | some m => return m

/-- The filesystem type of a freshly formatted device. -/
def defaultFormat : Text := "ext4"

/-- The command that formats a blank device. -/
def formatCommand (device : Path) (timeout : Span) : Command :=
  ⟨"mkfs." ++ defaultFormat, ["-F", device.text], none, timeout⟩

/-- The format of a device, after a blank one is formatted. -/
def ensureFormat (device : Path) (timeout : Span) : HostTask Text := do
  let format ← Device.format device timeout
  if format = [] then
    let _ ← HostTask.command (formatCommand device timeout)
    return defaultFormat
  else return format

/-- A failed mount or unmount of the target. -/
def blame (target : Path) (e : SystemError) : HostError :=
  if e = .busy then .busy target else .system e

/-- Mounts a device. -/
def mount (device target : Path) (timeout : Span) : HostTask Unit := do
  HostTask.system (KernelCall.makeDirectories target).onKernel
  let format ← ensureFormat device timeout
  if format.contains ' ' then
    throw (.invalidDevice device ("refusing to mount device holding " ++ format))
  HostTask.call (blame target) (KernelCall.mount device target format).onKernel

/-- Unmounts what is mounted on the path. -/
def unmount (target : Path) : HostTask Unit :=
  HostTask.call (fun e => if e = .invalidArgument then .notMounted target else blame target e)
    (KernelCall.unmount target).onKernel

end ShareAgent.Mount
