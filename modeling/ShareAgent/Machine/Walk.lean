import ShareAgent.Machine.FileTree
import ShareAgent.Text.Utf8

/-! # Following a path

A path is followed one step at a time. Every step starts in a directory; a symbolic link is replaced
by the steps of its target, at most forty times. -/
namespace ShareAgent.Machine

/-- One step along a path. `slash` leads nowhere, but tells that a name before it is a
directory's. -/
inductive PathStep
  | slash
  | stay
  | up
  | down (name : Text)
  deriving DecidableEq, Repr

/-- The steps of a path. -/
def pathSteps (p : Path) : List PathStep :=
  p.parts.map fun
    | [] => .slash
    | ['.'] => .stay
    | ['.', '.'] => .up
    | name => .down name

/-- What is wanted at the end of a path: a link itself, what a link leads to, or a place for a file
that is written. -/
inductive PathEnd
  | link
  | target
  | file
  deriving DecidableEq, Repr

/-- Where a path leads: to a file, or to a free name in a directory. -/
inductive Destination
  | found (at_ : Location)
  | free (directory : Location) (name : Text)
  deriving DecidableEq, Repr

/-- The longest name, in octets. -/
def nameLimit : Nat := 255

/-- The longest path, in octets, is one less. -/
def pathLimit : Nat := 4096

/-- The links that one path may pass. -/
def linkLimit : Nat := 40

namespace FileTree

/-- Follows steps from a directory. `links` more links may be passed. A file is not written under a
name with a slash after it. -/
def walk (t : FileTree) (last : PathEnd) (links : Nat) (steps : List PathStep) (here : Location) :
    Except SystemError Destination :=
  match steps with
  | [] => .ok (.found here)
  | step :: rest =>
    match t.node? here with
    | some .directory =>
      match step with
      | .slash => t.walk last links rest here
      | .stay => t.walk last links rest here
      | .up => t.walk last links rest here.dropLast
      | .down name =>
        if last = .file && rest ≠ [] && rest.all (· == .slash) then .error .isADirectory
        else if nameLimit < Utf8.size name then .error .nameTooLong
        else match t.node? (here ++ [name]) with
          | none => if rest = [] then .ok (.free here name) else .error .notFound
          | some (.link target) =>
            if rest = [] && last = .link then .ok (.found (here ++ [name]))
            else match links with
              | 0 => .error .tooManyLinks
              | links + 1 =>
                t.walk last links (pathSteps target ++ rest)
                  (if target.isAbsolute then [] else here)
          | some _ => t.walk last links rest (here ++ [name])
    | _ => .error .notADirectory
  termination_by (links, steps.length)

/-- Follows a path that may be relative to a directory. -/
def follow (t : FileTree) (last : PathEnd) (directory : Location) (p : Path) :
    Except SystemError Destination :=
  if p.text = [] then .error .notFound
  else t.walk last linkLimit (pathSteps p) (if p.isAbsolute then [] else directory)

/-- Follows a path as calls to the operating system do. -/
def reach (t : FileTree) (last : PathEnd) (directory : Location) (p : Path) :
    Except SystemError Destination :=
  if p.hasNul then .error .nulInName
  else if pathLimit ≤ Utf8.size p.text then .error .nameTooLong
  else t.follow last directory p

/-- The location of an existing file. -/
def locate (t : FileTree) (directory : Location) (p : Path) : Except SystemError Location :=
  match t.reach .target directory p with
  | .ok (.found at_) => .ok at_
  | .ok (.free ..) => .error .notFound
  | .error e => .error e

end FileTree
end ShareAgent.Machine
