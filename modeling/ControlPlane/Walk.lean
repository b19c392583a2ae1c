/-
Steps of a pass.

A pass works on its own copy of the status and knows the moment of the last answer it
got; what it does between two answers takes no time.  A step may change the status, call
a collaborator, or stop the pass with an error.  What was changed before the stop stays.
A step that breaks off leaves nothing: the pass has no outcome then.
-/
import ControlPlane.Call
import ControlPlane.Lifecycle
import ControlPlane.Program
import ControlPlane.Report

namespace ControlPlane

/-- When a resource is looked at again. -/
inductive Requeue where
  /-- When it changes. -/
  | awaitChange
  /-- After the interval for things outside. -/
  | poll
  /-- After the delay for failures of this resource. -/
  | backoff
deriving DecidableEq, Repr

/-- Why a pass stops with an error. -/
structure Stop where
  error : ControllerError
  /-- The condition of the step that failed, and the reason given in it. -/
  step : Option (ConditionType × Reason)
  requeue : Requeue
deriving DecidableEq

namespace Stop

/-- A failure that is reported on a condition with the class of the error as its reason. -/
def on (type : ConditionType) (error : ControllerError) (requeue : Requeue) : Stop :=
  ⟨error, some (type, .ofError error), requeue⟩

end Stop

/-- Where a pass stands. -/
structure Standing where
  status : Status
  now : Time
deriving DecidableEq, Inhabited

/-- A step of a pass; it comes to nothing if it breaks off. -/
def Walk (α : Type) : Type := Standing → Program Call Call.Reply (Option (Except Stop α × Standing))

namespace Walk

variable {α β : Type}

protected def pure (a : α) : Walk α := fun s => .done (some (.ok a, s))

/-- One step after another, unless the first one stops the pass or breaks off. -/
protected def bind (w : Walk α) (f : α → Walk β) : Walk β := fun s =>
  (w s).bind fun
    | some (.ok a, s) => f a s
    | some (.error stop, s) => .done (some (.error stop, s))
    | none => .done none

instance : Monad Walk where
  pure := Walk.pure
  bind := Walk.bind

/-- Stops the pass. -/
def stop (why : Stop) : Walk α := fun s => .done (some (.error why, s))

/-- Breaks off. -/
def abort : Walk α := fun _ => .done none

/-- The status as it stands. -/
def status : Walk Status := fun s => .done (some (.ok s.status, s))

/-- Changes the status. -/
def change (f : Status → Time → Status) : Walk Unit := fun s =>
  .done (some (.ok (), { s with status := f s.status s.now }))

/-- Calls a collaborator. -/
def ask (c : Call) : Walk (Outcome c.Answer) := fun s =>
  .ask c fun reply => .done (some (.ok reply.outcome, { s with now := reply.arrival }))

end Walk

end ControlPlane
