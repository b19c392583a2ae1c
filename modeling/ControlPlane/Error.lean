/-
Failures, and how they are surfaced.

A collaborator of the controller fails with a `ClientError`.  The controller speaks of a
`ControllerError`: the first four causes are those of the bootstrap itself, and the rest
are faults of the process around it.  The class of an error decides whether it waits for
a change of the resource or is tried again.
-/
import ControlPlane.Kubernetes.Fault
import ControlPlane.Validation

namespace ControlPlane

/-- A call of the secret store, the infrastructure provider or the installer that failed. -/
inductive ClientError where
  | kube (fault : Kubernetes.Fault)
  | api (text : String)
  | invalidRequest (text : String)
deriving DecidableEq, Repr

def ClientError.message : ClientError → String
  | .kube fault => "Kubernetes error: " ++ fault.message
  | .api text => "API error: " ++ text
  | .invalidRequest text => "Invalid request: " ++ text

/-- A metric that could not be registered. -/
inductive MetricsError where
  /-- A metric of this name is registered already. -/
  | alreadyRegistered
  | other (text : String)
deriving DecidableEq, Repr

def MetricsError.message : MetricsError → String
  | .alreadyRegistered => "Duplicate metrics collector registration attempted"
  | .other text => "Error: " ++ text

inductive ControllerError where
  /-- The input breaks rules; it has to change before another attempt. -/
  | validation (errors : List ValidationError)
  /-- A secret, a selector's secrets or an object of the provider is not to be had. -/
  | dependencyUnavailable (text : String)
  /-- An answer from outside did not come within its budget. -/
  | externalSignalTimeout (text : String)
  /-- A latch would be broken. -/
  | invariantViolation (violation : LatchViolation)
  | kube (fault : Kubernetes.Fault)
  | invalidConfig (text : String)
  | metrics (error : MetricsError)
  | io (text : String)
  | watch (text : String)
deriving DecidableEq, Repr

/-- How an error is surfaced. -/
inductive ErrorClass where
  /-- The operator has to act. -/
  | failure
  /-- It is expected while a cluster comes up, and tried again. -/
  | transient
deriving DecidableEq, Repr

namespace ControllerError

def message : ControllerError → String
  | .validation errors => "Validation failed: " ++ ValidationError.joined errors
  | .dependencyUnavailable text => "Dependency unavailable: " ++ text
  | .externalSignalTimeout text => "Timed out waiting for external signal: " ++ text
  | .invariantViolation v => "Invariant violation: " ++ v.message
  | .kube fault => "Kubernetes error: " ++ fault.message
  | .invalidConfig text => "Invalid configuration: " ++ text
  | .metrics error => "Metrics error: " ++ error.message
  | .io text => "Probe server error: " ++ text
  | .watch text => "Resource watch failed: " ++ text

/-- The class of an error. -/
def errorClass : ControllerError → ErrorClass
  | .validation _ | .invariantViolation _ | .invalidConfig _ => .failure
  | _ => .transient

/-- The label under which failures are counted. -/
def label : ControllerError → String
  | .validation _ => "ValidationError"
  | .dependencyUnavailable _ => "DependencyUnavailable"
  | .externalSignalTimeout _ => "ExternalSignalTimeout"
  | .invariantViolation _ => "InvariantViolation"
  | .kube _ => "KubeError"
  | .invalidConfig _ => "InvalidConfig"
  | .metrics _ => "MetricsError"
  | .io _ => "IoError"
  | .watch _ => "WatchError"

end ControllerError

end ControlPlane
