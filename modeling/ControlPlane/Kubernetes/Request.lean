/-
Requests to the cluster API and its replies.
-/
import ControlPlane.Json
import ControlPlane.Kubernetes.Fault
import ControlPlane.Program

namespace ControlPlane.Kubernetes

inductive Method where
  | get
  | patch
  | delete
deriving DecidableEq, Repr, Inhabited

def Method.text : Method → String
  | .get => "GET"
  | .patch => "PATCH"
  | .delete => "DELETE"

structure Request where
  method : Method
  path : String
  /-- The parameters, decoded. -/
  query : List (String × String)
  contentType : Option String
  body : Option Json
deriving Inhabited

structure Reply where
  code : Nat
  body : String
deriving DecidableEq, Repr, Inhabited

/-- A program that sends requests. -/
abbrev Sending (α : Type) := Program Request (fun _ => Reply) α

/-- A program that sends requests and may fail. -/
abbrev Client := ExceptT Fault (Program Request (fun _ => Reply))

end ControlPlane.Kubernetes
