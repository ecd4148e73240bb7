import ShareAgent.Export.Config

/-! # Editing the export configuration

Adding and removing the export of one volume. All text that is not touched keeps its form. -/
namespace ShareAgent.Export

/-- The export of a volume that a configuration holds already. -/
def find? (path : Path) (sections : List Section) : Option Entry :=
  (sections.filterMap Section.exported?).find? fun entry => entry.path.same path

/-- The number after an export number; the last number has no successor. -/
def successor (id : UInt16) : UInt16 := if id = 65535 then id else id + 1

/-- A number above all export numbers in use. -/
def nextId (sections : List Section) : UInt16 :=
  (sections.filterMap Section.exported?).foldl (fun next entry => max next (successor entry.id)) 1

/-- Ends text at the end of a configuration with a line break. -/
def endLine : List Section → List Section
  | [] => []
  | [.text content] =>
    [.text (if content.getLast? = some '\n' then content else content ++ ['\n'])]
  | s :: rest => s :: endLine rest

/-- What adding an export comes to. -/
inductive Addition
  /-- The volume is exported already. -/
  | present (id : UInt16)
  /-- Every export number is in use. -/
  | exhausted
  /-- The configuration with the new export. -/
  | added (id : UInt16) (sections : List Section)
  deriving DecidableEq, Repr

/-- Adds the export of a volume below `root`. -/
def add (root : Path) (volume : Text) (sections : List Section) : Addition :=
  match find? (root.join volume) sections with
  | some entry => .present entry.id
  | none =>
    let id := nextId sections
    if id = 65535 then .exhausted
    else
      let entry := Entry.ofVolume id root volume
      .added id (endLine sections ++ [.block entry entry.render])

/-- The section exports the path. -/
def exports (path : Path) (s : Section) : Bool :=
  match s.exported? with
  | none => false
  | some entry => entry.path.same path

/-- The configuration without the exports of a path, if there are any. -/
def remove? (path : Path) (sections : List Section) : Option (List Section) :=
  if sections.any (exports path) then some (sections.filter (! exports path ·)) else none

end ShareAgent.Export
