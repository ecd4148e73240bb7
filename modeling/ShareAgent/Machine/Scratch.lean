import ShareAgent.Machine.Files

/-! # Setting files up

Changes that put a file tree into a wanted form, and the tree of a machine that was just
installed. -/
namespace ShareAgent.Machine

/-- A change at a path below some directory. -/
inductive FileChange
  /-- Writes a file and, if wanted, makes it runnable. -/
  | file (path : Text) (content : Bytes) (runnable : Bool)
  | directory (path : Text)
  | link (path : Text) (target : Path)
  /-- Removes a file, or a directory with all it holds. -/
  | remove (path : Text)
  deriving DecidableEq, Repr

namespace FileTree

variable (directory : Location)

/-- Creates the directories above a path. -/
def makeParent (t : FileTree) (p : Path) : FileTree :=
  match p.parent with
  | none => t
  | some above => (t.makeDirectories directory above).1

/-- Makes a file runnable. -/
def makeRunnable (t : FileTree) (p : Path) : FileTree :=
  match t.locate directory p with
  | .error _ => t
  | .ok at_ =>
    match t.node? at_ with
    | some (.file content _) => t.put at_ (.file content true)
    | _ => t

/-- The tree after a step, or as it was if the step failed. -/
def orSame (t : FileTree) : Except SystemError FileTree → FileTree
  | .ok changed => changed
  | .error _ => t

/-- Makes a change below a directory. A change that is not possible is left out. -/
def change (t : FileTree) (c : FileChange) : FileTree :=
  match c with
  | .file path content runnable =>
    let t := t.makeParent directory ⟨path⟩
    let t := t.orSame (t.write directory ⟨path⟩ content)
    if runnable then t.makeRunnable directory ⟨path⟩ else t
  | .directory path => (t.makeDirectories directory ⟨path⟩).1
  | .link path target =>
    let t := t.makeParent directory ⟨path⟩
    t.orSame (t.create directory ⟨path⟩ (.link target))
  | .remove path =>
    match t.reach .link directory (dropSlashes ⟨path⟩) with
    | .ok (.found at_) => t.remove at_
    | _ => t

/-- Makes changes in their order. -/
def changes (t : FileTree) (cs : List FileChange) : FileTree := cs.foldl (change directory) t

end FileTree

/-- The tools that every machine has, with their names. -/
def standardTools : List (Text × Tool) :=
  [("sh", .shell), ("echo", .echo), ("printf", .printf), ("cat", .cat), ("sleep", .sleep),
    ("true", .succeed), ("false", .fail)]

/-- The directories that hold the tools. -/
def toolDirectories : List Location := [[Text.ofString "bin"], [Text.ofString "usr", "bin"]]

namespace FileTree

/-- Puts the tools into a directory. -/
def install (t : FileTree) (directory : Location) : FileTree :=
  standardTools.foldl (fun t (name, tool) => t.put (directory ++ [name]) (.tool tool)) t

/-- The character devices that every machine has, with their numbers. -/
def standardDevices : List (Text × Nat) :=
  [("null", 259), ("zero", 261), ("full", 263), ("random", 264), ("urandom", 265), ("tty", 1280)]

/-- The directories that every machine has. -/
def standardDirectories : List Text :=
  ["bin", "boot", "dev", "etc", "home", "lib", "media", "mnt", "opt", "proc", "root", "run", "sbin",
    "srv", "sys", "tmp", "usr/bin", "usr/lib", "usr/local/bin", "usr/sbin", "usr/share", "var/lib",
    "var/log", "var/run", "var/tmp"]

/-- The files that every machine has. -/
def standardFiles : List (Text × Text) :=
  [("etc/hostname", "localhost\n"), ("etc/hosts", "127.0.0.1\tlocalhost\n"),
    ("etc/passwd", "root:x:0:0:root:/root:/bin/sh\n"), ("etc/group", "root:x:0:\n"),
    ("etc/fstab", "")]

/-- The file tree of a machine that was just installed. -/
def installed : FileTree :=
  let t := bare.changes [] (standardDirectories.map FileChange.directory ++
    standardFiles.map fun (path, text) => .file path (Utf8.encode text) false)
  let t := standardDevices.foldl (fun t (name, number) =>
    t.put [Text.ofString "dev", name] (.device .characterDevice number)) t
  toolDirectories.foldl install t

end FileTree
end ShareAgent.Machine
