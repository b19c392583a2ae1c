/-
What is observed of a control plane, and its two latches.

`initialized` and `ready` only ever go from false to true, and `ready` requires
`initialized`.  `markInitialized` and `markReady` are the only ways to set them, and
`checkTransition` judges a whole write against what is stored.
-/
import ControlPlane.Condition
import ControlPlane.Template

namespace ControlPlane

open Json

/-- A write that would break a latch. -/
inductive LatchViolation where
  | initializedRegressed
  | readyRegressed
  | readyBeforeInitialized
deriving DecidableEq, Repr

def LatchViolation.message : LatchViolation → String
  | .initializedRegressed => "status.initialized cannot go from true to false"
  | .readyRegressed => "status.ready cannot go from true to false"
  | .readyBeforeInitialized => "status.ready cannot be true while status.initialized is false"

structure Status where
  conditions : ConditionSet
  /-- A control-plane machine has joined the bootstrap cluster. -/
  initialized : Bool
  /-- Bootstrap is complete and its machine is gone. -/
  ready : Bool
  /-- The template that was accepted. -/
  boundTemplate : Option MachineTemplate
deriving DecidableEq, Inhabited

namespace Status

/-- The status before anything was observed. -/
def blank : Status := ⟨.empty, false, false, none⟩

def markInitialized (s : Status) : Status := { s with initialized := true }

def markReady (s : Status) : Except LatchViolation Status :=
  if s.initialized then .ok { s with ready := true } else .error .readyBeforeInitialized

/-- Binds a template unless one is bound. -/
def bind (s : Status) (t : MachineTemplate) : Status :=
  match s.boundTemplate with
  | some _ => s
  | none => { s with boundTemplate := some t }

/-- Judges the write of a status over the stored one. -/
def checkTransition (stored : Option Status) (written : Status) : Except LatchViolation Unit :=
  let before := stored.getD blank
  if before.initialized && !written.initialized then .error .initializedRegressed
  else if before.ready && !written.ready then .error .readyRegressed
  else if written.ready && !written.initialized then .error .readyBeforeInitialized
  else .ok ()

/-- Writes a condition of one of the controller's types. -/
def report (s : Status) (type : ConditionType) (status : ConditionStatus) (reason : Reason)
    (message : String) (generation : Option Int) (now : Time) : Status :=
  { s with conditions := s.conditions.set type.text status reason.text message generation now }

/-- A write of this condition changes the status. -/
def reportChanges (s : Status) (type : ConditionType) (status : ConditionStatus) (reason : Reason)
    (message : String) (generation : Option Int) : Bool :=
  s.conditions.setChanges type.text status reason.text message generation

/-- A condition of one of the controller's types is true. -/
def isTrue (s : Status) (type : ConditionType) : Bool := s.conditions.isTrue type.text

def encode (s : Status) : Json :=
  objectOf [fieldIfSet "boundMachineTemplate" MachineTemplate.encode s.boundTemplate,
    if s.conditions.isEmpty then none else field "conditions" s.conditions.encode,
    field "initialized" (.bool s.initialized), field "ready" (.bool s.ready)]

def decode (s : Source) : Decoded Status := do
  let r ← asRecord 0 4 s
  let conditions ← r.orElse 0 "conditions" .empty ConditionSet.decode
  let initialized ← r.orElse 1 "initialized" false asBool
  let ready ← r.orElse 2 "ready" false asBool
  let boundTemplate ← r.optional 3 "boundMachineTemplate" MachineTemplate.decode
  .ok { conditions, initialized, ready, boundTemplate }

theorem checkTransition_ok_iff {stored : Option Status} {written : Status} :
    checkTransition stored written = .ok () ↔
      ((stored.getD blank).initialized = true → written.initialized = true) ∧
      ((stored.getD blank).ready = true → written.ready = true) ∧
      (written.ready = true → written.initialized = true) := by
  simp only [checkTransition]
  generalize stored.getD blank = before
  obtain ⟨_, i, r, _⟩ := before
  obtain ⟨_, i', r', _⟩ := written
  cases i <;> cases r <;> cases i' <;> cases r' <;> simp

end Status

end ControlPlane
