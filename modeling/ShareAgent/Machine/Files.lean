import ShareAgent.Machine.Walk

/-! # Calls on files -/
namespace ShareAgent.Machine.FileTree

variable (t : FileTree) (directory : Location) (p : Path)

/-- The absolute path without links that leads to the same file. Only what is reached counts
against the limit of a path's length, not how it is written. -/
def canonical : Except SystemError Path :=
  if p.hasNul then .error .nulInName
  else match t.follow .target directory p with
    | .error e => .error e
    | .ok (.free ..) => .error .notFound
    | .ok (.found at_) =>
      if pathLimit ≤ Utf8.size (pathOf at_).text then .error .nameTooLong else .ok (pathOf at_)

/-- The octets of a file. -/
def read : Except SystemError Bytes :=
  (t.locate directory p).bind fun at_ =>
    match t.node? at_ with
    | some (.file content _) => .ok content
    | some .directory => .error .isADirectory
    | some _ => .ok []
    | none => .error .notFound

/-- The names in a directory. -/
def list : Except SystemError (List Text) :=
  (t.locate directory p).bind fun at_ =>
    if t.node? at_ = some .directory then .ok (t.names at_) else .error .notADirectory

/-- What a path names. -/
def status : Except SystemError FileStatus :=
  (t.locate directory p).bind fun at_ =>
    match t.node? at_ with
    | some node => .ok node.status
    | none => .error .notFound

/-- The path names a directory. -/
def isDirectory : Bool :=
  match t.status directory p with
  | .ok status => status.kind == .directory
  | .error _ => false

/-- Writes a file, which keeps its permissions if it exists. -/
def write (content : Bytes) : Except SystemError FileTree :=
  (t.reach .file directory p).bind fun
    | .free above name => .ok (t.put (above ++ [name]) (.file content false))
    | .found at_ =>
      match t.node? at_ with
      | some (.file _ runnable) => .ok (t.put at_ (.file content runnable))
      | some .directory => .error .isADirectory
      | _ => .ok t

/-- A path without the slashes at its end. -/
def dropSlashes (p : Path) : Path :=
  match p.text.reverse.dropWhile (· == '/') with
  | [] => p
  | back => ⟨back.reverse⟩

/-- Puts something new at a free name. -/
def create (node : Node) : Except SystemError FileTree :=
  (t.reach .link directory (dropSlashes p)).bind fun
    | .free above name => .ok (t.put (above ++ [name]) node)
    | .found _ => .error .alreadyExists

/-- Creates the directories of a list, last first. An existing one is as good. -/
def createEach (directory : Location) : List Path → FileTree → FileTree × Except SystemError Unit
  | [], t => (t, .ok ())
  | p :: rest, t =>
    match createEach directory rest t with
    | (t, .error e) => (t, .error e)
    | (t, .ok ()) =>
      match t.create directory p .directory with
      | .ok t => (t, .ok ())
      | .error e =>
        if e = .alreadyExists && t.isDirectory directory p then (t, .ok ()) else (t, .error e)

/-- Looks, from a directory upwards, for the first one that exists or can be created; those below it
are left to be created. -/
def findBase (directory : Location) (t : FileTree) (below : List Path) :
    List Path → FileTree × Except SystemError Unit
  | [] => createEach directory below t
  | p :: above =>
    match t.create directory p .directory with
    | .ok t => createEach directory below t
    | .error e =>
      if e = .notFound then findBase directory t (below ++ [p]) above
      else if e = .alreadyExists && t.isDirectory directory p then
        createEach directory below t
      else (t, .error e)

/-- Creates a directory and those above it, as far as they are missing. -/
def makeDirectories : FileTree × Except SystemError Unit :=
  match p.parent with
  | none => (t, .ok ())
  | some _ => findBase directory t [] p.ancestors

/-- Moves a file that is no directory. -/
def move (source target : Location) : Except SystemError FileTree :=
  match t.node? source with
  | none => .error .notFound
  | some .directory => .error .isADirectory
  | some node => .ok ((t.remove source).put target node)

/-- The path ends in a name, not in dots or the root. -/
def endsInName (p : Path) : Bool :=
  match ((pathSteps p).filter (· != .slash)).getLast? with
  | some (.down _) => true
  | _ => false

/-- Gives a file that is no directory another name. A name with a slash at its end would have to be
that of a directory. -/
def rename (target : Path) : Except SystemError FileTree :=
  (t.reach .link directory p).bind fun
    | .free .. => .error .notFound
    | .found source =>
      (t.reach .link directory (dropSlashes target)).bind fun destination =>
        if ! endsInName target then .error .busy
        else if target.text.getLast? = some '/' then .error .notADirectory
        else match destination with
          | .free above name => t.move source (above ++ [name])
          | .found place =>
            if place = source then .ok t
            else if t.node? place = some .directory then .error .isADirectory
            else t.move source place

end ShareAgent.Machine.FileTree
