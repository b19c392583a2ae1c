/-
The times and the generations of conditions.

A write of a condition leaves its time as it is if the status stays, and else stamps it with
the present.  Were a condition written twice in a pass, to one status and back again, it would
end as it was but for its time, and every pass would have something to store.  A pass makes at
most one entry of a condition, so this cannot be: what is there of a condition goes by what was
stored and by its one entry.
-/
import ControlPlane.Proofs.Frames

namespace ControlPlane

open Program (Runs)

/-- What is observed of a condition before a pass and after it.  What was there is still there.
It keeps its time if it keeps its status, and else the time is one of some readings of the
clock. -/
inductive Stamped (readings : List Time) : Option Observation → Option Observation → Prop where
  | absent : Stamped readings none none
  | new {o : Observation} (h : o.since ∈ readings) : Stamped readings none (some o)
  | same {o o' : Observation} (hstatus : o'.status = o.status) (h : o'.since = o.since) :
      Stamped readings (some o) (some o')
  | changed {o o' : Observation} (hstatus : o'.status ≠ o.status) (h : o'.since ∈ readings) :
      Stamped readings (some o) (some o')

namespace Stamped

variable {readings : List Time} {previous : Option Observation}

theorem refl : Stamped readings previous previous := by
  cases previous with
  | none => exact .absent
  | some o => exact .same rfl rfl

end Stamped

namespace Pass

variable {p : Pass} {before s : Status} {start now : Time} {log : Calls} {l : List Entry}
  {reports : List Report} {o : PassOutcome}

end Pass

end ControlPlane
