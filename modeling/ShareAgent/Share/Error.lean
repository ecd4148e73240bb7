import ShareAgent.HostError

/-! # Failures of an operation

What the caller of an operation learns, directly or as the status of a remote call. -/
namespace ShareAgent

/-- The class of a failed operation. -/
inductive Fault
  | failedPrecondition
  | invalidArgument
  | internal
  deriving DecidableEq, Repr

/-- The diagnostic code of a class. -/
def Fault.code : Fault → Text
  | .failedPrecondition => "volshare::share::failed_precondition"
  | .invalidArgument => "volshare::share::invalid_argument"
  | .internal => "volshare::share::internal"

/-- What the reader of a failure of this class can do about it. -/
def Fault.help? : Fault → Option Text
  | .failedPrecondition => some "Fix the volume device on the host before retrying"
  | _ => none

/-- A failed operation. -/
structure ShareError where
  fault : Fault
  message : Text
  deriving DecidableEq, Repr

namespace ShareError

/-- A host step failed; `task` says what it was for. -/
def internal (task cause : Text) : ShareError := ⟨.internal, task ++ ": " ++ cause⟩

/-- The host is not ready for the operation. -/
def failedPrecondition (message : Text) : ShareError := ⟨.failedPrecondition, message⟩

/-- The request does not fit what the host holds. -/
def invalidArgument (message : Text) : ShareError := ⟨.invalidArgument, message⟩

end ShareError

/-- The status codes of remote calls. -/
inductive StatusCode
  | failedPrecondition
  | invalidArgument
  | internal
  | unavailable
  deriving DecidableEq, Repr

/-- The status of a failed remote call. -/
structure Status where
  code : StatusCode
  message : Text
  deriving DecidableEq, Repr

/-- The status that reports a failed operation. -/
def Status.ofShareError (e : ShareError) : Status where
  code := match e.fault with
    | .failedPrecondition => .failedPrecondition
    | .invalidArgument => .invalidArgument
    | .internal => .internal
  message := e.message

end ShareAgent
