/-
What the timeout fields of a machine template mean.

An unset timeout means something else in each field: draining a node and detaching its
volumes then take as long as they take, which a zero says too, while deleting a node
falls back on the machine's own default, and zero there is a limit of its own.  Two
timeouts are compared by this meaning and not by their texts.

Whoever asks for the meaning of a timeout has its text read, and breaks off where the
reading does.
-/
import ControlPlane.Duration.Parser

namespace ControlPlane

/-- The meaning of a timeout once its default is known. -/
inductive Timeout where
  | noLimit
  /-- The machine's own default holds. -/
  | machineDefault
  | limit (d : Duration)
deriving DecidableEq, Repr

namespace Timeout

/-- The meaning of a drain or volume-detach timeout. -/
def ofDrain : Option String → Fallible DurationError Timeout
  | none => .ok .noLimit
  | some text => do
    let d ← Duration.parse text
    .ok (if d.nanos = 0 then .noLimit else .limit d)

/-- The meaning of a node-deletion timeout. -/
def ofDeletion : Option String → Fallible DurationError Timeout
  | none => .ok .machineDefault
  | some text => do .ok (.limit (← Duration.parse text))

/-- Two timeout fields mean the same; where one of them cannot be read their texts decide.
Nothing comes of it if the reading of either breaks off. -/
def agree (meaning : Option String → Fallible DurationError Timeout) (a b : Option String) :
    Option Bool :=
  match meaning a, meaning b with
  | .abort, _ | _, .abort => none
  | .ok x, .ok y => some (x = y)
  | _, _ => some (a = b)

/-- Several fields mean the same.  They are looked at in turn, up to the first that does not. -/
def allAgree : List (Option Bool) → Option Bool
  | [] => some true
  | field :: rest => do if ← field then allAgree rest else some false

end Timeout

end ControlPlane
