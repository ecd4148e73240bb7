import ShareAgent.Path
import ShareAgent.Span
import ShareAgent.SystemError
import ShareAgent.Volume

/-! # Failures on the host -/
namespace ShareAgent

/-- Why a mount, device, encryption, command or export step failed. -/
inductive HostError
  | busy (target : Path)
  | notMounted (path : Path)
  | invalidDevice (path : Path) (reason : Text)
  | commandFailed (line : Text) (exitCode : Option Int) (complaint : Text)
  | commandTimeout (line : Text) (timeout : Span)
  | exportFailed (message : Text)
  | system (cause : SystemError)
  | badSetting (message : Text)
  | unexpected (message : Text)
  deriving DecidableEq, Repr

namespace HostError

/-- The wording of a failure. -/
def message : HostError → Text
  | .busy target => "Target is busy: " ++ target.text
  | .notMounted path => "Not a mount point: " ++ path.text
  | .invalidDevice path reason => "Invalid block device " ++ path.text ++ ": " ++ reason
  | .commandFailed line exitCode complaint =>
    "Command `" ++ line ++ "` failed with exit code " ++
      (match exitCode with
        | none => "none"
        | some code => Text.ofInt code) ++ ": " ++ complaint
  | .commandTimeout line timeout =>
    "Command `" ++ line ++ "` timed out after " ++ timeout.text
  | .exportFailed message => "Export error: " ++ message
  | .system cause => "I/O error: " ++ cause.message
  | .badSetting message => "Configuration error: " ++ message
  | .unexpected message => "Internal error: " ++ message

/-- The diagnostic code of a failure. -/
def code : HostError → Text
  | .busy _ => "volshare::mount::busy"
  | .notMounted _ => "volshare::mount::not_mounted"
  | .invalidDevice .. => "volshare::device::invalid"
  | .commandFailed .. => "volshare::command::failed"
  | .commandTimeout .. => "volshare::command::timeout"
  | .exportFailed _ => "volshare::export"
  | .system _ => "volshare::io"
  | .badSetting _ => "volshare::config"
  | .unexpected _ => "volshare::internal"

/-- What the reader of a failure can do about it. -/
def help? : HostError → Option Text
  | .busy _ => some "Another process still holds files open under the mount point"
  | _ => none

/-- The failure may go away by itself. -/
def isBusy : HostError → Bool
  | .busy _ => true
  | _ => false

end HostError

/-- Reads the name of a data engine as a setting. -/
def DataEngine.ofSetting (t : Text) : Except HostError DataEngine :=
  (DataEngine.read t).mapError fun name =>
    .badSetting ("unknown data engine '" ++ name ++ "', expected 'v1' or 'v2'")

end ShareAgent
