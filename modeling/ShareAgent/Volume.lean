import ShareAgent.Text.Blank
import ShareAgent.Text.Quoted

/-! # The volume

The one volume that an agent serves. A volume without a name is not bound yet. -/
namespace ShareAgent

/-- The data engine behind a volume. -/
inductive DataEngine
  | v1
  | v2
  deriving DecidableEq, Repr, Inhabited

namespace DataEngine

/-- The name of an engine. -/
def text : DataEngine → Text
  | .v1 => "v1"
  | .v2 => "v2"

/-- The name of an engine in diagnostics. -/
def label : DataEngine → Text
  | .v1 => "V1"
  | .v2 => "V2"

/-- Reads the name of an engine, whatever its case and the blanks around it; the default engine may
be left blank. An unknown name is returned as it was understood. -/
def read (t : Text) : Except Text DataEngine :=
  let name := Text.lowerAscii (Text.trim t)
  if name = [] || name = "v1" then .ok .v1
  else if name = "v2" then .ok .v2
  else .error name

end DataEngine

/-- The volume served by one agent. -/
structure Volume where
  name : Text
  engine : DataEngine
  encrypted : Bool
  passphrase : Option Text
  deriving DecidableEq, Repr, Inhabited

namespace Volume

/-- An unencrypted volume. -/
def named (name : Text) (engine : DataEngine) : Volume := ⟨name, engine, false, none⟩

/-- The volume that is not bound. -/
def unbound : Volume := named [] .v1

/-- An encrypted volume that this passphrase opens. -/
def withPassphrase (v : Volume) (passphrase : Text) : Volume :=
  { v with encrypted := true, passphrase := some passphrase }

/-- The volume has a name. -/
def isBound (v : Volume) : Bool := ! v.name.isEmpty

/-- The name of the open mapping of an encrypted volume. -/
def mappingName (name : Text) : DataEngine → Text
  | .v1 => name
  | .v2 => name ++ "-encrypted"

/-- What diagnostics show in place of a passphrase. -/
def redacted : Text := "<redacted>"

/-- A truth value in diagnostics. -/
def flagText (b : Bool) : Text := if b then "true" else "false"

/-- The volume on one line, without its passphrase. -/
def describe (v : Volume) : Text :=
  "Volume \x7b name: " ++ Quoted.encode v.name ++ ", data_engine: " ++ v.engine.label ++
    ", encrypted: " ++ flagText v.encrypted ++ ", passphrase: " ++
    (match v.passphrase with
      | none => "None"
      | some _ => "Some(" ++ Quoted.encode redacted ++ ")") ++ " \x7d"

/-- The volume on several lines, without its passphrase. -/
def describeLines (v : Volume) : Text :=
  "Volume \x7b\n    name: " ++ Quoted.encode v.name ++ ",\n    data_engine: " ++ v.engine.label ++
    ",\n    encrypted: " ++ flagText v.encrypted ++ ",\n    passphrase: " ++
    (match v.passphrase with
      | none => "None"
      | some _ => "Some(\n        " ++ Quoted.encode redacted ++ ",\n    )") ++ ",\n\x7d"

end Volume
end ShareAgent
