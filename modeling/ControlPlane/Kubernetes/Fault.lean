/-
What can go wrong between the controller and the cluster API.

The API may refuse a request and say why.  An answer may not be what was asked for, and
a request may not be sent at all, because a name has no place in a URL.
-/
import ControlPlane.Text.Quoted

namespace ControlPlane.Kubernetes

/-- Why the API refuses a request. -/
structure Refusal where
  status : String
  message : String
  reason : String
  code : Nat
deriving DecidableEq, Repr, Inhabited

/-- A request to the API that failed. -/
inductive Fault where
  | refused (r : Refusal)
  /-- The answer is not of the form that the request asks for. -/
  | unreadable
  /-- The request cannot be written down. -/
  | unsendable
deriving DecidableEq, Repr

namespace Fault

def message : Fault → String
  | .refused r =>
    "ApiError: " ++ r.message ++ ": " ++ r.reason ++ " (ErrorResponse \x7b status: " ++
      Text.quoted r.status ++ ", message: " ++ Text.quoted r.message ++ ", reason: " ++
      Text.quoted r.reason ++ ", code: " ++ toString r.code ++ " \x7d)"
  | .unreadable => "Error deserializing response"
  | .unsendable => "Failed to build request"

/-- The fault says that the object does not exist; only the reason tells. -/
def isNotFound : Fault → Bool
  | .refused r => r.reason = "NotFound"
  | _ => false

end Fault

end ControlPlane.Kubernetes
