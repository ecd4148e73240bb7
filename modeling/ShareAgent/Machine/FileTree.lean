import ShareAgent.Path
import ShareAgent.Kernel

/-! # A file tree

A tree of directories, files and symbolic links as a finite map from locations. A location is the
list of names from the root; the root itself is always a directory. -/
namespace ShareAgent.Machine

/-- The names that lead from the root to a file. -/
abbrev Location := List Text

/-- The tools that the machine brings along. -/
inductive Tool
  | shell
  | echo
  | printf
  | cat
  | sleep
  | succeed
  | fail
  deriving DecidableEq, Repr

/-- What can stand at a location. -/
inductive Node
  | directory
  | file (content : Bytes) (runnable : Bool)
  | link (target : Path)
  | device (kind : FileKind) (number : Nat)
  | tool (tool : Tool)
  deriving DecidableEq, Repr

/-- The status of what stands at a location. -/
def Node.status : Node → FileStatus
  | directory => ⟨.directory, 0⟩
  | file .. => ⟨.regular, 0⟩
  | link _ => ⟨.link, 0⟩
  | device kind number => ⟨kind, number⟩
  | tool _ => ⟨.regular, 0⟩

/-- A file tree. -/
structure FileTree where
  nodes : List (Location × Node)
  deriving Repr

namespace FileTree

/-- The tree of the root alone. -/
def bare : FileTree := ⟨[]⟩

/-- What stands at a location. -/
def node? (t : FileTree) (at_ : Location) : Option Node :=
  if at_ = [] then some .directory else t.nodes.lookup at_

/-- Puts something at a location in place of what stood there. -/
def put (t : FileTree) (at_ : Location) (node : Node) : FileTree :=
  ⟨(at_, node) :: t.nodes.filter fun entry => entry.1 != at_⟩

/-- Removes what stands at a location and below. -/
def remove (t : FileTree) (at_ : Location) : FileTree :=
  ⟨t.nodes.filter fun entry => ! at_.isPrefixOf entry.1⟩

/-- The names in a directory. -/
def names (t : FileTree) (at_ : Location) : List Text :=
  t.nodes.filterMap fun entry =>
    if entry.1.dropLast = at_ then entry.1.getLast? else none

/-- The absolute path of a location. -/
def pathOf (at_ : Location) : Path := ⟨'/' :: Text.join "/" at_⟩

/-- Order by octets. -/
def insertSorted (word : Text) : List Text → List Text
  | [] => [word]
  | other :: rest =>
    if Text.before other word then other :: insertSorted word rest else word :: other :: rest

/-- Everything below a location as relative paths in the order of their octets, directories with a
slash at the end. -/
def listing (t : FileTree) (at_ : Location) : List Text :=
  let below := t.nodes.filterMap fun (where_, node) =>
    if at_.isPrefixOf where_ && where_ != at_ then
      let relative := Text.join "/" (where_.drop at_.length)
      some (if node = .directory then relative ++ "/" else relative)
    else none
  below.foldr insertSorted []

end FileTree
end ShareAgent.Machine
