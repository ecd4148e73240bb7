import ShareAgent.Kernel
import ShareAgent.Text.Split

/-! # The format of a device

A probe reports what it recognises as `KEY=value` lines. A device without any signature is blank. -/
namespace ShareAgent.Device

/-- The signatures that a probe reports. -/
structure Signatures where
  filesystem : Option Text
  partitions : Option Text
  deriving DecidableEq, Repr

/-- Takes one line of a report; a later line replaces an earlier one. -/
def Signatures.add (s : Signatures) (line : Text) : Signatures :=
  match Text.cut '=' (Text.trim line) with
  | none => s
  | some (key, value) =>
    if key = "TYPE" then { s with filesystem := some value }
    else if key = "PTTYPE" then { s with partitions := some value }
    else s

/-- The signatures of a report. -/
def Signatures.read (report : Text) : Signatures :=
  (Text.lines report).foldl .add ⟨none, none⟩

/-- The format that signatures amount to, empty for a blank device. A partition table has blanks in
its format, so it is no filesystem type. -/
def Signatures.format : Signatures → Text
  | ⟨some filesystem, _⟩ => filesystem
  | ⟨none, some partitions⟩ => partitions ++ " partition table"
  | ⟨none, none⟩ => []

/-- The command that probes a device. -/
def probeCommand (device : Path) (timeout : Span) : Command :=
  ⟨"blkid", ["-p", "-s", "TYPE", "-s", "PTTYPE", "-o", "export", device.text], none, timeout⟩

/-- The exit code of a probe that finds nothing. -/
def nothingFound : Int := 2

/-- The format of a device, empty if it is blank. -/
def format (device : Path) (timeout : Span) : HostTask Text :=
  ExceptT.mk <| .ask (.run (probeCommand device timeout)) fun
    | .ok report => .done (.ok (Signatures.read report).format)
    | .error (.commandFailed line code complaint) =>
      if code = some nothingFound then .done (.ok [])
      else .done (.error (.commandFailed line code complaint))
    | .error e => .done (.error e)

end ShareAgent.Device
