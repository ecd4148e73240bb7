import ShareAgent.Mount.DeviceNumber
import ShareAgent.Mount.Escape
import ShareAgent.Share.Host
import ShareAgent.Text.Split

/-! # The mount table

One line for each mounted filesystem, in the order of mounting:
`36 35 98:0 /root /mount/point rw master:1 - ext3 /dev/sda rw`. Lines of another form are
skipped. -/
namespace ShareAgent.Mount

/-- The number read from two numerals around a colon. -/
def readDeviceNumber (field : Text) : Option Nat := do
  let (major, minor) ← Text.cut ':' field
  let major ← (Numeral.readWord 32 major).toOption
  let minor ← (Numeral.readWord 32 minor).toOption
  return DeviceNumber.make major minor

/-- The record of a line: five fields at least before a lone hyphen, and a filesystem type after. -/
def readLine (line : Text) : Option MountRecord :=
  match Text.cutAt " - " line with
  | none => none
  | some (front, back) =>
    match Text.words front, Text.words back with
    | _ :: _ :: device :: _ :: point :: _, _ :: _ =>
      (readDeviceNumber device).map fun number => ⟨⟨unescape point⟩, number⟩
    | _, _ => none

/-- The records of a mount table. -/
def readTable (table : Text) : List MountRecord := (Text.lines table).filterMap readLine

end ShareAgent.Mount
