import ShareAgent.Machine.Scratch

/-! # Programs

Which tool runs when a file is executed. A file that begins with `#!` names the tool that reads
it. -/
namespace ShareAgent.Machine

/-- A tool with the arguments that come before those of the caller. -/
structure Program where
  tool : Tool
  arguments : List Text
  deriving DecidableEq, Repr

/-- The tools that may read one another's files. -/
def interpreterLimit : Nat := 5

/-- The interpreter that the first line of a file names, with its argument. -/
def interpreter? (content : Bytes) : Option (Text × List Text) :=
  match Utf8.decodeLossy (content.takeWhile (· != 10)) with
  | '#' :: '!' :: line =>
    let line := Text.trimBy (fun c => c == ' ' || c == '\t') line
    let name := line.takeWhile fun c => c != ' ' && c != '\t'
    let argument := (line.drop name.length).dropWhile fun c => c == ' ' || c == '\t'
    some (name, if argument = [] then [] else [argument])
  | _ => none

namespace Program

/-- The program in a file. -/
def inFile (t : FileTree) (directory : Location) : Nat → Path → Except SystemError Program
  | 0, _ => .error .tooManyLinks
  | n + 1, p =>
    (t.locate directory p).bind fun at_ =>
      match t.node? at_ with
      | some (.tool tool) => .ok ⟨tool, []⟩
      | some (.file content true) =>
        match interpreter? content with
        | none => .error .notRunnable
        | some ([], _) => .error .notRunnable
        | some (name, arguments) =>
          (inFile t directory n ⟨name⟩).map fun program =>
            { program with arguments := program.arguments ++ arguments ++ [p.text] }
      | _ => .error .accessDenied

/-- The program at a path. -/
def atPath (t : FileTree) (directory : Location) (p : Path) : Except SystemError Program :=
  inFile t directory interpreterLimit p

/-- Looks for a program in directories, and goes on after the failures that a search may pass. -/
def search (t : FileTree) (directory : Location) (name : Text) (denied : Bool)
    (last : SystemError) : List Text → Except SystemError Program
  | [] => .error (if denied then .accessDenied else last)
  | place :: places =>
    match atPath t directory ((⟨place⟩ : Path).join name) with
    | .ok program => .ok program
    | .error e =>
      if e = .accessDenied then search t directory name true last places
      else if e = .notFound || e = .notADirectory then search t directory name denied e places
      else .error e

/-- The directories of a search path. -/
def places (searchPath : Text) : List Text := Text.pieces (· == ':') searchPath

/-- The program with a name, which is looked for unless it is a path. -/
def find (t : FileTree) (directory : Location) (searchPath name : Text) :
    Except SystemError Program :=
  if name = [] then .error .notFound
  else if name.contains '/' then atPath t directory ⟨name⟩
  else if nameLimit < Utf8.size name then .error .nameTooLong
  else search t directory name false .notFound (places searchPath)

end Program
end ShareAgent.Machine
