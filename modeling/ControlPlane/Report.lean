/-
How a failure or a wait shows in the conditions.

A failure that waits for the operator makes the control plane degraded.  A transient one
leaves it progressing, as a wait does.  The condition of the step that failed is made
false in either case.
-/
import ControlPlane.Error

namespace ControlPlane

/-- The reason that tells the class of an error. -/
def Reason.ofError : ControllerError → Reason
  | .validation errors =>
    if errors.any isImmutable then .machineTemplateImmutable else .validationFailed
  | .invariantViolation _ => .invariantViolation
  | .externalSignalTimeout _ => .externalSignalTimeout
  | _ => .dependencyUnavailable
where
  /-- The error is a change of something that must not change. -/
  isImmutable : ValidationError → Bool
    | .immutable _ => true
    | _ => false

namespace Status

/-- Nothing is wrong. -/
def clearDegraded (s : Status) (generation : Option Int) (now : Time) : Status :=
  s.report .degraded .fails .asExpected "" generation now

/-- Something outside is waited for. -/
def reportWaiting (s : Status) (reason : Reason) (message : String) (generation : Option Int)
    (now : Time) : Status :=
  (s.report .progressing .holds reason message generation now).clearDegraded generation now

/-- A failure, and the condition of the step that failed with the reason for it. -/
def reportError (s : Status) (step : Option (ConditionType × Reason)) (error : ControllerError)
    (generation : Option Int) (now : Time) : Status :=
  let s := match step with
    | some (type, reason) => s.report type .fails reason error.message generation now
    | none => s
  match error.errorClass with
  | .failure => s.report .degraded .holds (.ofError error) error.message generation now
  | .transient =>
    (s.report .progressing .holds (.ofError error) error.message generation now).clearDegraded
      generation now

end Status

end ControlPlane
