import ShareAgent.Device.Format
import ShareAgent.Text.Numeral
import ShareAgent.Text.Quoted

/-! # Growing a filesystem

A filesystem grows if its device has room for more than one further block. Sizes are words of 64
bits; a filesystem whose size does not fit one is refused. -/
namespace ShareAgent.Device

/-- Block size and block count of a filesystem, as far as they are known. -/
structure Blocks where
  size : Option Nat
  count : Option Nat
  deriving DecidableEq, Repr

/-- How a tool reports block size and count: the mark after a key, and the two keys. -/
structure BlockReport where
  mark : Char
  sizeKey : Text
  countKey : Text

/-- Takes one line of a report; a later line replaces an earlier one, even by nothing. -/
def BlockReport.add (r : BlockReport) (b : Blocks) (line : Text) : Blocks :=
  match Text.cut r.mark line with
  | none => b
  | some (key, value) =>
    let number := (Numeral.readWord 64 (Text.trim value)).toOption
    if Text.trim key = r.sizeKey then { b with size := number }
    else if Text.trim key = r.countKey then { b with count := number }
    else b

/-- The blocks of a report. -/
def BlockReport.read (r : BlockReport) (report : Text) : Blocks :=
  (Text.lines report).foldl r.add ⟨none, none⟩

/-- A filesystem's block size and its size in octets, if both are known and fit. -/
def Blocks.extent? : Blocks → Option (Nat × Nat)
  | ⟨some size, some count⟩ =>
    if size * count < UInt64.size then some (size, size * count) else none
  | _ => none

/-- The report on an ext filesystem. -/
def extReport : BlockReport := ⟨':', "Block size", "Block count"⟩

/-- The report on an XFS filesystem. -/
def xfsReport : BlockReport := ⟨'=', "geom.bsize", "geom.datablocks"⟩

/-- The families of filesystems that can grow while mounted. -/
inductive Family
  | ext
  | xfs
  deriving DecidableEq, Repr

/-- The family of a format. -/
def Family.of? (format : Text) : Option Family :=
  if format = "ext2" || format = "ext3" || format = "ext4" then some .ext
  else if format = "xfs" then some .xfs
  else none

variable (device mountPath : Path) (timeout : Span)

/-- The size of a device in octets. -/
def size : HostTask Nat := do
  let output ← HostTask.command ⟨"blockdev", ["--getsize64", device.text], none, timeout⟩
  match Numeral.readWord 64 (Text.trim output) with
  | .ok size => return size
  | .error e => throw (.unexpected
      ("Unexpected blockdev output " ++ Quoted.encode output ++ ": " ++ e.message))

/-- The extent of a mounted filesystem. -/
def extent : Family → HostTask (Nat × Nat)
  | .ext => do
    let report ← HostTask.command ⟨"dumpe2fs", ["-h", device.text], none, timeout⟩
    match (extReport.read report).extent? with
    | some extent => return extent
    | none => throw (.unexpected ("Failed to read ext filesystem size of " ++ device.text))
  | .xfs => do
    let report ← HostTask.command ⟨"xfs_io", ["-c", "statfs", mountPath.text], none, timeout⟩
    match (xfsReport.read report).extent? with
    | some extent => return extent
    | none => throw (.unexpected ("Failed to read xfs filesystem size of " ++ mountPath.text))

/-- The command that grows a filesystem. -/
def growCommand : Family → Command
  | .ext => ⟨"resize2fs", [device.text], none, timeout⟩
  | .xfs => ⟨"xfs_growfs", [mountPath.text], none, timeout⟩

/-- Whether a device has room for more than one block beyond a filesystem of this extent. -/
def hasRoom (deviceSize : Nat) (extent : Nat × Nat) : Bool := extent.1 < deviceSize - extent.2

/-- Grows the filesystem to its device; answers whether it had room. -/
def grow : HostTask Bool := do
  let format ← format device timeout
  let deviceSize ← size device timeout
  match Family.of? format with
  | none => throw (.unexpected ("Resize of filesystem format " ++ Quoted.encode format ++ " on " ++
      device.text ++ " is not supported"))
  | some family =>
    let extent ← extent device mountPath timeout family
    if hasRoom deviceSize extent then
      let _ ← HostTask.command (growCommand device mountPath timeout family)
      return true
    else return false

end ShareAgent.Device
