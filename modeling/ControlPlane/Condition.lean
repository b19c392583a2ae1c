/-
Conditions: what is observed of a control plane, one observation per type.

An observation carries the time at which its status last changed.  Writing an
observation with the status that is already there refreshes its texts and keeps that
time; a new type or a new status is stamped with the present.
-/
import ControlPlane.Json.Decode
import ControlPlane.Time

namespace ControlPlane

open Json

/-- Whether a condition holds. -/
inductive ConditionStatus where
  | holds
  | fails
  /-- It cannot be told. -/
  | unknown
deriving DecidableEq, Repr

namespace ConditionStatus

def text : ConditionStatus → String
  | .holds => "True"
  | .fails => "False"
  | .unknown => "Unknown"

def ofBool : Bool → ConditionStatus
  | true => .holds
  | false => .fails

end ConditionStatus

/-- The types of conditions that the controller reports. -/
inductive ConditionType where
  /-- A template was accepted and the installer has something to start from. -/
  | templateBound
  | manifestsResolved
  | machinesProvisioned
  | controlPlaneInitialized
  | bootstrapComplete
  | ready
  | progressing
  | degraded
deriving DecidableEq, Repr

def ConditionType.text : ConditionType → String
  | .templateBound => "TemplateBound"
  | .manifestsResolved => "ManifestsResolved"
  | .machinesProvisioned => "MachinesProvisioned"
  | .controlPlaneInitialized => "ControlPlaneInitialized"
  | .bootstrapComplete => "BootstrapComplete"
  | .ready => "Ready"
  | .progressing => "Progressing"
  | .degraded => "Degraded"

/-- The reasons that the controller gives for a condition. -/
inductive Reason where
  | asExpected
  | validationFailed
  | machineTemplateImmutable
  | invariantViolation
  | dependencyUnavailable
  | externalSignalTimeout
  | installStateMissing
  | installStateFound
  | installConfigFound
  | installerDefaults
  | manifestsFound
  | invalidManifests
  | machinesRequested
  | waitingForControlPlane
  | controlPlaneJoined
  | waitingForInstaller
  | bootstrapCompleted
  | waitingForBootstrapDeletion
  | bootstrapMachineDeleted
deriving DecidableEq, Repr

def Reason.text : Reason → String
  | .asExpected => "AsExpected"
  | .validationFailed => "ValidationFailed"
  | .machineTemplateImmutable => "MachineTemplateImmutable"
  | .invariantViolation => "InvariantViolation"
  | .dependencyUnavailable => "DependencyUnavailable"
  | .externalSignalTimeout => "ExternalSignalTimeout"
  | .installStateMissing => "InstallStateMissing"
  | .installStateFound => "InstallStateFound"
  | .installConfigFound => "InstallConfigFound"
  | .installerDefaults => "InstallerDefaults"
  | .manifestsFound => "ManifestsFound"
  | .invalidManifests => "InvalidManifests"
  | .machinesRequested => "MachinesRequested"
  | .waitingForControlPlane => "WaitingForControlPlane"
  | .controlPlaneJoined => "ControlPlaneJoined"
  | .waitingForInstaller => "WaitingForInstaller"
  | .bootstrapCompleted => "BootstrapCompleted"
  | .waitingForBootstrapDeletion => "WaitingForBootstrapDeletion"
  | .bootstrapMachineDeleted => "BootstrapMachineDeleted"

/-- What a condition says, its type apart.  A stored status may be any text. -/
structure Observation where
  status : String
  reason : String
  message : String
  generation : Option Int
  /-- When the status last changed. -/
  since : Time
deriving DecidableEq, Repr, Inhabited

/-- An observation of one type, as a list of conditions has it. -/
structure Condition where
  type : String
  observation : Observation
deriving DecidableEq, Repr, Inhabited

namespace Condition

def encode (c : Condition) : Json :=
  objectOf [field "lastTransitionTime" (.str c.observation.since.text),
    field "message" (.str c.observation.message),
    fieldIfSet "observedGeneration" .int c.observation.generation,
    field "reason" (.str c.observation.reason), field "status" (.str c.observation.status),
    field "type" (.str c.type)]

def asTime (s : Source) : Decoded Time := do
  match Time.read? (← asString s) with
  | some t => .ok t
  | none => .error .mismatch

def decode (s : Source) : Decoded Condition := do
  let r ← asObject s
  let since ← r.required 0 "lastTransitionTime" asTime
  let message ← r.nullable 1 "message" "" asString
  let generation ← r.optional 2 "observedGeneration" asInt64
  let reason ← r.nullable 3 "reason" "" asString
  let status ← r.nullable 4 "status" "" asString
  let type ← r.nullable 5 "type" "" asString
  .ok { type, observation := { status, reason, message, generation, since } }

end Condition

/-- At most one observation per type, in the order of the types. -/
structure ConditionSet where
  byType : Table String Observation
deriving DecidableEq, Inhabited

namespace ConditionSet

def empty : ConditionSet := ⟨.empty⟩

def isEmpty (c : ConditionSet) : Bool := c.byType.isEmpty

def size (c : ConditionSet) : Nat := c.byType.size

/-- The set of a list, where the last condition of a type stays. -/
def ofList (l : List Condition) : ConditionSet :=
  ⟨Table.ofList (l.map fun c => (c.type, c.observation))⟩

/-- The conditions, sorted by type. -/
def toList (c : ConditionSet) : List Condition :=
  c.byType.entries.map fun e => ⟨e.1, e.2⟩

def get? (c : ConditionSet) (type : String) : Option Observation := c.byType.get? type

/-- The condition is there with this status. -/
def hasStatus (c : ConditionSet) (type : String) (status : ConditionStatus) : Bool :=
  match c.get? type with
  | some o => o.status = status.text
  | none => false

def isTrue (c : ConditionSet) (type : String) : Bool := c.hasStatus type .holds

def isFalse (c : ConditionSet) (type : String) : Bool := c.hasStatus type .fails

/-- The observation after a write: the time moves only with the status. -/
def refreshed (previous : Option Observation) (status : ConditionStatus) (reason message : String)
    (generation : Option Int) (now : Time) : Observation :=
  { status := status.text, reason, message, generation,
    since := match previous with
      | some o => if o.status = status.text then o.since else now
      | none => now }

/-- Writes a condition. -/
def set (c : ConditionSet) (type : String) (status : ConditionStatus) (reason message : String)
    (generation : Option Int) (now : Time) : ConditionSet :=
  ⟨c.byType.insert type (refreshed (c.get? type) status reason message generation now)⟩

/-- A write of this condition changes the set. -/
def setChanges (c : ConditionSet) (type : String) (status : ConditionStatus)
    (reason message : String) (generation : Option Int) : Bool :=
  match c.get? type with
  | none => true
  | some o =>
    o.status ≠ status.text || o.reason ≠ reason || o.message ≠ message ||
      o.generation ≠ generation

def encode (c : ConditionSet) : Json := .arr (c.toList.map Condition.encode)

def decode (s : Source) : Decoded ConditionSet := ofList <$> asList Condition.decode s

theorem get?_set (c : ConditionSet) (type type' : String) (status : ConditionStatus)
    (reason message : String) (generation : Option Int) (now : Time) :
    (c.set type status reason message generation now).get? type' =
      if type' = type then
        some (refreshed (c.get? type) status reason message generation now)
      else c.get? type' :=
  Table.get?_insert _ _ _ _

end ConditionSet

end ControlPlane
