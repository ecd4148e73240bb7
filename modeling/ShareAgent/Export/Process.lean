import ShareAgent.Mount.Mounter

/-! # Finding a process

Every process has a directory named by its number, with its command name in the file `comm`. The
name there is cut after fifteen octets. -/
namespace ShareAgent.Export

/-- The longest command name of a process, in octets. -/
def nameLimit : Nat := 15

/-- The first `limit` octets of a text, if that many are whole characters. -/
def firstOctets : Nat → Text → Option Text
  | 0, _ => some []
  | _, [] => none
  | limit, c :: rest =>
    if c.utf8Size ≤ limit then (firstOctets (limit - c.utf8Size) rest).map (c :: ·) else none

/-- The command name that a process with this name shows. -/
def shownName (name : Text) : Text := (firstOctets nameLimit name).getD name

/-- A text without the line feeds at its end. -/
def dropLineFeeds (t : Text) : Text := (t.reverse.dropWhile (· == '\n')).reverse

/-- The processes among directory entries whose command name is `shown`. One that cannot be read
has ended. -/
def named (root : Path) (shown : Text) : List Text → OnKernel (List Int)
  | [] => .done []
  | entry :: rest =>
    match Numeral.readInt 32 entry with
    | .error _ => named root shown rest
    | .ok process =>
      .ask (.readFile ((root.join entry).join "comm")) fun answer =>
        (named root shown rest).bind fun others =>
          match answer.bind Mount.asText with
          | .ok comm => .done (if dropLineFeeds comm = shown then process :: others else others)
          | .error _ => .done others

/-- The processes with this name, in increasing order. -/
def processes (root : Path) (name : Text) : HostTask (List Int) := do
  let entries ← HostTask.system (KernelCall.listDirectory root).onKernel
  let found ← ExceptT.lift (named root (shownName name) entries)
  return found.mergeSort

end ShareAgent.Export
