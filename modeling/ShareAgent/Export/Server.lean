import ShareAgent.Export.Edit
import ShareAgent.Export.Process
import ShareAgent.Settings

/-! # The NFS server

The configuration file of the server and the signal that makes it read the file again. The file is
replaced as a whole: the new content is written beside it and takes its name, so no reader sees a
part of it. -/
namespace ShareAgent.Export

/-- Where the server's configuration and process are found. -/
structure Server where
  config : Path
  exportRoot : Path
  processRoot : Path
  processName : Text
  deriving DecidableEq, Repr

namespace Server

/-- The server that settings name. -/
def ofSettings (s : Settings) : Server where
  config := s.exportConfig
  exportRoot := s.layout.exportRoot
  processRoot := s.processRoot
  processName := s.exportServer

variable (server : Server)

/-- The sections that reading the configuration file has given. A missing file has none. -/
def sectionsOf : Except SystemError Bytes → Except HostError (List Section)
  | .ok octets =>
    match Mount.asText octets with
    | .ok config => .ok (readSections config)
    | .error e => .error (.system e)
  | .error e => if e = .notFound then .ok [] else .error (.system e)

/-- The sections of the configuration file. -/
def sections : HostTask (List Section) :=
  ExceptT.mk <| .ask (.readFile server.config) fun answer => .done (sectionsOf answer)

/-- The file that a new configuration is written to before it takes its place. -/
def draft : Path := server.config.withExtension "tmp"

/-- Creates the directory of the configuration file. -/
def makeDirectory : HostTask Unit :=
  match server.config.parent with
  | none => pure ()
  | some directory => HostTask.system (KernelCall.makeDirectories directory).onKernel

/-- Writes the draft and gives it the name of the configuration file. -/
def swap (content : Bytes) : HostTask Unit := do
  HostTask.system (KernelCall.writeFile server.draft content).onKernel
  HostTask.system (KernelCall.rename server.draft server.config).onKernel

/-- Replaces the configuration file. -/
def replace (sections : List Section) : HostTask Unit := do
  server.makeDirectory
  server.swap (Utf8.encode (writeSections sections))

/-- Adds the export of a volume, or finds it; answers its number. -/
def create (volume : Text) : HostTask UInt16 := do
  match add server.exportRoot volume (← server.sections) with
  | .present id => return id
  | .exhausted => throw (.exportFailed ("no export id left in " ++ server.config.text))
  | .added id sections =>
    server.replace sections
    return id

/-- Removes the exports of a volume. -/
def delete (volume : Text) : HostTask Unit := do
  match remove? (server.exportRoot.join volume) (← server.sections) with
  | none => return
  | some sections => server.replace sections

/-- The processes of the server; none if they cannot be found out. -/
def running : OnKernel (List Int) :=
  (processes server.processRoot server.processName).run.bind fun
    | .ok found => .done found
    | .error _ => .done []

/-- Signals each of the processes until one cannot be signalled. -/
def signal : List Int → HostTask Unit
  | [] => pure ()
  | process :: rest => do
    HostTask.call (fun e : SystemError => .exportFailed
        ("failed to signal " ++ server.processName ++ " (" ++ Text.ofInt process ++ "): " ++
          e.message))
      (KernelCall.hangUp process).onKernel
    signal rest

/-- Makes the server read its configuration. -/
def reload : HostTask Unit := do
  match ← ExceptT.lift server.running with
  | [] => throw (.exportFailed (server.processName ++ " is not running"))
  | found => server.signal found

/-- Whether the server runs. -/
def isRunning : OnKernel Bool :=
  server.running.bind fun found => .done (! found.isEmpty)

end Server
end ShareAgent.Export
