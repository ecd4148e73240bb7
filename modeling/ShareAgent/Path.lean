import ShareAgent.Text.Split

/-! # Paths

A path is kept as it was written; two paths are the same when their components are. Repeated and
trailing slashes and single dots inside a path are no components, a leading dot and every double
dot are. -/
namespace ShareAgent

/-- A path of the file system, as written. -/
structure Path where
  text : Text
  deriving DecidableEq, Repr, Inhabited

/-- What a path is made of. -/
inductive Component
  | root
  | here
  | parent
  | name (name : Text)
  deriving DecidableEq, Repr

namespace Component

/-- The component written between two slashes, if that is one. -/
def ofPiece : Text → Option Component
  | [] => none
  | ['.'] => none
  | ['.', '.'] => some .parent
  | other => some (.name other)

/-- The written form of a component. -/
def text : Component → Text
  | .root => []
  | .here => ['.']
  | .parent => ['.', '.']
  | .name own => own

end Component

namespace Path

instance : Coe String Path := ⟨fun s => ⟨Text.ofString s⟩⟩

/-- A path from the root of the file system. -/
def isAbsolute (p : Path) : Bool := p.text.head? == some '/'

/-- The component that only the beginning of a path can have. -/
def lead (p : Path) : List Component :=
  match p.text with
  | '/' :: _ => [.root]
  | ['.'] => [.here]
  | '.' :: '/' :: _ => [.here]
  | _ => []

/-- What is written between the slashes. -/
def parts (p : Path) : List Text := Text.pieces (· == '/') p.text

/-- The components in order. -/
def components (p : Path) : List Component := p.lead ++ p.parts.filterMap Component.ofPiece

/-- Equality of paths: the same components in the same order. -/
def same (a b : Path) : Bool := a.components == b.components

/-- The path with these components. -/
def ofComponents : List Component → Path
  | .root :: rest => ⟨'/' :: Text.join "/" (rest.map Component.text)⟩
  | parts => ⟨Text.join "/" (parts.map Component.text)⟩

/-- Goes on from a directory: an absolute path replaces it, any other is added after a slash. -/
def join (base : Path) (t : Text) : Path :=
  match t with
  | '/' :: _ => ⟨t⟩
  | _ =>
    match base.text.getLast? with
    | none => ⟨t⟩
    | some '/' => ⟨base.text ++ t⟩
    | some _ => ⟨base.text ++ '/' :: t⟩

/-- The directory that holds the last component; the root and the empty path have none. -/
def parent (p : Path) : Option Path :=
  match p.components.reverse with
  | [] => none
  | .root :: _ => none
  | _ :: above => some (ofComponents above.reverse)

/-- The path and the directories above it, nearest first, without the root and the empty path. -/
def ancestors (p : Path) : List Path :=
  let steps := p.components
  let above := (List.range (steps.length - 1)).reverse.map fun k => steps.take (k + 1)
  p :: (above.filter (· != [.root])).map ofComponents

/-- The last component, if it is a name. -/
def fileName (p : Path) : Option Text :=
  match p.components.getLast? with
  | some (.name name) => some name
  | _ => none

/-- Drops what follows the last name of a path that is written backwards. -/
def dropTail : Text → Text
  | '/' :: back => dropTail back
  | '.' :: '/' :: back => dropTail back
  | back => back

/-- A file name without its last extension; a dot in front begins no extension. -/
def stem (name : Text) : Text :=
  match Text.cut '.' name.reverse with
  | none => name
  | some (_, []) => name
  | some (_, front) => front.reverse

/-- Replaces the last extension of the file name. A path without a file name is kept. The extension
is taken off before the new one is put on, so a path that ends in two dots and an extension is
without a file name in between, and stays that. -/
def withExtension (p : Path) (extension : Text) : Path :=
  match p.fileName with
  | none => p
  | some name =>
    let body := (dropTail p.text.reverse).reverse
    let above := body.take (body.length - name.length)
    if stem name = ['.'] && body = p.text then ⟨above ++ ['.', '.']⟩
    else ⟨above ++ stem name ++ '.' :: extension⟩

/-- The path holds a NUL, which no call to the operating system accepts. -/
def hasNul (p : Path) : Bool := p.text.contains '\x00'

example : (withExtension "/a/vfs.conf" "tmp").text = "/a/vfs.tmp" := by decide
example : (withExtension ".conf" "tmp").text = ".conf.tmp" := by decide
example : (withExtension "/a/..conf" "tmp").text = "/a/.." := by decide
example : (withExtension "/a/..conf/" "tmp").text = "/a/..tmp" := by decide
example : same "/export//a/." "/export/./a" = true := by decide
example : same "/export/a/.." "/export" = false := by decide

end Path
end ShareAgent
