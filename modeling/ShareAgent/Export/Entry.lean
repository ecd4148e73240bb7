import ShareAgent.Path

/-! # Export entries

What one block of the export configuration says, and how a block is written. -/
namespace ShareAgent.Export

/-- An exported directory, its number and its name in the NFS name space. -/
structure Entry where
  id : UInt16
  path : Path
  pseudo : Text
  deriving DecidableEq, Repr

namespace Entry

/-- The export of a volume that is mounted below `root`. -/
def ofVolume (id : UInt16) (root : Path) (volume : Text) : Entry where
  id := id
  path := root.join volume
  pseudo := '/' :: volume

/-- The same number and name for the same path, however the path is written. -/
def same (a b : Entry) : Bool := a.id == b.id && a.path.same b.path && a.pseudo == b.pseudo

/-- The block that exports the entry for reading and writing. -/
def render (e : Entry) : Text :=
  "EXPORT\n\x7b\n\tExport_Id = " ++ Text.ofNat e.id.toNat ++
    ";\n\tPath = " ++ e.path.text ++
    ";\n\tPseudo = " ++ e.pseudo ++
    ";\n\tAccess_Type = RW;\n\tSquash = No_root_squash;\n\tSecType = sys;\n\tProtocols = 4;\n" ++
    "\tTransports = TCP;\n\tFSAL \x7b\n\t\tName = VFS;\n\t\x7d\n\x7d\n"

end Entry
end ShareAgent.Export
