import ShareAgent.Daemon.LogFilter
import ShareAgent.Daemon.Options
import ShareAgent.Share.State

/-! # Log records

What the daemon reports while it starts, and how a record is written: as an object of JSON on a line
of its own. -/
namespace ShareAgent.Daemon

/-- The value of a field of a log record. -/
inductive FieldValue
  | text (text : Text)
  | flag (flag : Bool)
  deriving DecidableEq, Repr

/-- A log record: the part of the program that wrote it, and what it says. -/
structure Record where
  level : Level
  part : Text
  message : Text
  fields : List (Text × FieldValue)
  deriving DecidableEq, Repr

/-- The part of the program that serves. -/
def daemonPart : Text := "volshared"

/-- The part of the program that prepares directories. -/
def layoutPart : Text := "volshare_common::paths"

/-- The part of the program that manages a share. -/
def sharePart : Text := "volshare::share::controller"

/-- The report that the directory for mounts is about to be created. -/
def creatingRoot (layout : Layout) : Record where
  level := .debug
  part := layoutPart
  message := "Creating export root"
  fields := [("export_root", .text layout.exportRoot.text)]

/-- The report that the daemon starts. -/
def starting (v : Volume) : Record where
  level := .info
  part := daemonPart
  message := "Starting share manager"
  fields := [("volume", .text v.name), ("data_engine", .text v.engine.text),
    ("encrypted", .flag v.encrypted)]

/-- The report that a share is managed. -/
def managing (v : Volume) : Record where
  level := .debug
  part := sharePart
  message := "Created share controller"
  fields := [("volume", .text v.describe), ("state", .text (ShareState.initial v).text)]

/-- The report that the daemon is about to serve. -/
def listening (address : Address) : Record where
  level := .info
  part := daemonPart
  message := "gRPC server listening on " ++ address.text
  fields := []

namespace Record

/-- The name of the field that holds what a record says. -/
def messageField : Text := "message"

/-- The names of the fields of a record. -/
def fieldNames (r : Record) : List Text := messageField :: r.fields.map (·.1)

/-- One character inside a string of JSON. -/
def jsonChar (c : Char) : Text :=
  if c = '"' then "\\\""
  else if c = '\\' then "\\\\"
  else if c.toNat < 0x20 then
    let digits := Nat.toDigits 16 c.toNat
    Text.ofString "\\u" ++ List.replicate (4 - digits.length) '0' ++ digits
  else [c]

/-- A string of JSON. -/
def jsonString (t : Text) : Text := "\"" ++ t.flatMap jsonChar ++ "\""

/-- The value of a field in JSON. -/
def jsonValue : FieldValue → Text
  | .text t => jsonString t
  | .flag b => Volume.flagText b

/-- A record on one line. -/
def line (r : Record) : Text :=
  let fields := (messageField, FieldValue.text r.message) :: r.fields
  "\x7b\"level\":" ++ jsonString r.level.text ++ ",\"fields\":\x7b" ++
    Text.join "," (fields.map fun (name, value) => jsonString name ++ ":" ++ jsonValue value) ++
    "\x7d,\"target\":" ++ jsonString r.part ++ "\x7d\n"

end Record
end ShareAgent.Daemon
