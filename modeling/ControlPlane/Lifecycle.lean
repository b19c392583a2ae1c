/-
Where a control plane is in its bootstrap, and the signals that move it along.

The phase is read off a status: the steps that are done say how far the bootstrap has
come, and a degraded control plane that is not ready yet is in a phase of its own.

A signal is something seen outside.  It is applied only after the one that goes before
it, and a second delivery changes nothing.
-/
import ControlPlane.Status

namespace ControlPlane

inductive Phase where
  | pending
  | templateBound
  | provisioning
  | initialized
  | bootstrapComplete
  | ready
  | degraded
deriving DecidableEq, Repr

namespace Phase

def text : Phase → String
  | .pending => "Pending"
  | .templateBound => "TemplateBound"
  | .provisioning => "Provisioning"
  | .initialized => "Initialized"
  | .bootstrapComplete => "BootstrapComplete"
  | .ready => "Ready"
  | .degraded => "Degraded"

/-- How far the bootstrap has come. -/
def progress (s : Status) : Phase :=
  if s.ready then .ready
  else if s.initialized && s.isTrue .bootstrapComplete then .bootstrapComplete
  else if s.initialized then .initialized
  else if s.isTrue .machinesProvisioned then .provisioning
  else if s.boundTemplate.isSome then .templateBound
  else .pending

/-- The phase of a status. -/
def ofStatus (s : Status) : Phase :=
  if !s.ready && s.isTrue .degraded then .degraded else progress s

/-- The phase of a resource's status; without one nothing has happened. -/
def observe : Option Status → Phase
  | none => .pending
  | some s => ofStatus s

end Phase

/-- What is seen of the machines and the installer. -/
inductive Signal where
  /-- A control-plane machine joined the bootstrap cluster. -/
  | controlPlaneJoined
  /-- The installer reported the end of the bootstrap. -/
  | bootstrapCompleted
  /-- The bootstrap machine is gone. -/
  | bootstrapMachineDeleted
deriving DecidableEq, Repr

namespace Signal

/-- The condition that a signal makes true. -/
def condition : Signal → ConditionType
  | .controlPlaneJoined => .controlPlaneInitialized
  | .bootstrapCompleted => .bootstrapComplete
  | .bootstrapMachineDeleted => .ready

def reason : Signal → Reason
  | .controlPlaneJoined => .controlPlaneJoined
  | .bootstrapCompleted => .bootstrapCompleted
  | .bootstrapMachineDeleted => .bootstrapMachineDeleted

def message : Signal → String
  | .controlPlaneJoined => "a control-plane machine joined the bootstrap cluster"
  | .bootstrapCompleted => "installer reported bootstrap complete"
  | .bootstrapMachineDeleted => "bootstrap machine removed, control plane is ready"

end Signal

namespace Status

/-- The signal's predecessor has been applied. -/
def expects (s : Status) : Signal → Bool
  | .controlPlaneJoined => true
  | .bootstrapCompleted => s.initialized
  | .bootstrapMachineDeleted => s.isTrue .bootstrapComplete

/-- The status with the latch of a signal set. -/
def latch (s : Status) : Signal → Except LatchViolation Status
  | .controlPlaneJoined => .ok s.markInitialized
  | .bootstrapCompleted => .ok s
  | .bootstrapMachineDeleted => s.markReady

/-- The latch of a signal is still open. -/
def latchChanges (s : Status) : Signal → Bool
  | .controlPlaneJoined => !s.initialized
  | .bootstrapCompleted => false
  | .bootstrapMachineDeleted => !s.ready

/-- The status after a signal, and whether the signal changed it. -/
def receive (s : Status) (signal : Signal) (generation : Option Int) (now : Time) :
    Except LatchViolation (Bool × Status) :=
  if s.expects signal then do
    let latched ← s.latch signal
    .ok (s.latchChanges signal ||
        latched.reportChanges signal.condition .holds signal.reason signal.message generation,
      latched.report signal.condition .holds signal.reason signal.message generation now)
  else .ok (false, s)

end Status

end ControlPlane
