import ShareAgent.Settings
import ShareAgent.Share.Error

/-! # Health

Whether an agent serves. It serves as long as there is a share to be managed; what the share is
doing plays no part, so a health query never waits for an operation. -/
namespace ShareAgent.Health

/-- Whether an agent serves. -/
inductive Serving
  | serving
  | notServing
  deriving DecidableEq, Repr

/-- The name of a serving status. -/
def Serving.text : Serving → Text
  | .serving => "SERVING"
  | .notServing => "NOT_SERVING"

/-- The failure of a health query: nothing is served. -/
inductive Failure
  | notServing
  deriving DecidableEq, Repr

/-- The wording of a failed query. -/
def Failure.message : Failure → Text
  | .notServing => "share manager gRPC server is not running"

/-- The status that reports a failed query. -/
def Failure.toStatus (f : Failure) : Status := ⟨.unavailable, f.message⟩

/-- The service whose status is listed. -/
def serviceName : Text := "grpc"

/-- What answers health queries. -/
structure Reporter where
  hasShare : Bool
  interval : Span
  deriving DecidableEq, Repr

namespace Reporter

/-- A reporter that updates its watchers once in a while, but not too often. -/
def make (hasShare : Bool) (interval : Span) : Reporter :=
  ⟨hasShare, interval.longer shortestWatchInterval⟩

/-- The current status. -/
def status (r : Reporter) : Serving := if r.hasShare then .serving else .notServing

/-- A query that fails unless the agent serves. -/
def check (r : Reporter) : Except Failure Serving :=
  match r.status with
  | .serving => .ok .serving
  | .notServing => .error .notServing

/-- The status of every service. -/
def list (r : Reporter) : Except Failure (List (Text × Serving)) :=
  r.check.map fun status => [(serviceName, status)]

end Reporter
end ShareAgent.Health
