/-
Spans of time.

A duration counts nanoseconds.  What can be held is bounded by whole seconds of 64
bits: `InRange` says so, `limit` is the longest such span, and `saturatingAdd` stays
within it.
-/

namespace ControlPlane

structure Duration where
  nanos : Nat
deriving DecidableEq, Repr, Inhabited

namespace Duration

def nanosPerSecond : Nat := 1000000000

def zero : Duration := ⟨0⟩

def ofSeconds (n : Nat) : Duration := ⟨n * nanosPerSecond⟩

def ofMillis (n : Nat) : Duration := ⟨n * 1000000⟩

/-- A span of whole seconds and nanoseconds; a full second of nanoseconds is carried. -/
def ofParts (seconds nanos : Nat) : Duration := ⟨seconds * nanosPerSecond + nanos⟩

/-- The whole seconds of a span. -/
def seconds (d : Duration) : Nat := d.nanos / nanosPerSecond

/-- What a span is longer than its whole seconds. -/
def subsecNanos (d : Duration) : Nat := d.nanos % nanosPerSecond

def millis (d : Duration) : Nat := d.nanos / 1000000

/-- The whole seconds fit into 64 bits. -/
def InRange (d : Duration) : Prop := d.nanos < UInt64.size * nanosPerSecond

instance (d : Duration) : Decidable d.InRange := inferInstanceAs (Decidable (_ < _))

/-- The longest span in range. -/
def limit : Duration := ⟨UInt64.size * nanosPerSecond - 1⟩

def min (a b : Duration) : Duration := if a.nanos ≤ b.nanos then a else b

/-- The sum, or the longest span if the sum is out of range. -/
def saturatingAdd (a b : Duration) : Duration := min ⟨a.nanos + b.nanos⟩ limit

instance : LE Duration := ⟨fun a b => a.nanos ≤ b.nanos⟩

instance (a b : Duration) : Decidable (a ≤ b) :=
  inferInstanceAs (Decidable (a.nanos ≤ b.nanos))

/-- A span as a budget is spoken of: in whole seconds, or else in milliseconds. -/
def spoken (d : Duration) : String :=
  if d.millis % 1000 = 0 then s!"{d.seconds}s" else s!"{d.millis}ms"

theorem seconds_lt_of_inRange {d : Duration} (h : d.InRange) : d.seconds < UInt64.size :=
  (Nat.div_lt_iff_lt_mul (by decide)).2 h

theorem ofParts_seconds_subsecNanos (d : Duration) : ofParts d.seconds d.subsecNanos = d := by
  cases d; simp [ofParts, seconds, subsecNanos, Nat.div_add_mod']

theorem limit_inRange : limit.InRange := by decide

end Duration

end ControlPlane
