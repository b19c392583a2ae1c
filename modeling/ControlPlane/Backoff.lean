/-
Delays between retries.

The delays of one key grow like the Fibonacci numbers up to a cap, starting from the
shortest delay: 5 s, 5 s, 10 s, 15 s, 25 s and so on up to 300 s by default.  The tracker
keeps one row of delays per key, beside the number of failures since the last success.
-/
import ControlPlane.Duration
import ControlPlane.Table

namespace ControlPlane

/-- A row of delays: the shortest one, the last two terms and the cap. -/
structure Backoff where
  shortest : Duration
  previous : Duration
  current : Duration
  cap : Duration
deriving DecidableEq, Repr

namespace Backoff

/-- The row from its start. -/
def start (shortest cap : Duration) : Backoff := ⟨shortest, .zero, shortest, cap⟩

/-- The row that retries of the controller follow. -/
def standard : Backoff := start (.ofSeconds 5) (.ofSeconds 300)

/-- The next delay, and the row after it. -/
def next (b : Backoff) : Duration × Backoff :=
  (b.current,
    { b with previous := b.current, current := (b.previous.saturatingAdd b.current).min b.cap })

/-- Back to the shortest delay. -/
def reset (b : Backoff) : Backoff := start b.shortest b.cap

/-- The next `n` delays, and the row after them. -/
def take : Nat → Backoff → List Duration × Backoff
  | 0, b => ([], b)
  | n + 1, b =>
    let (d, b) := b.next
    let (ds, b) := take n b
    (d :: ds, b)

end Backoff

/-- The failures of one key since its last success. -/
structure Retries where
  delays : Backoff
  failures : Nat
deriving DecidableEq, Repr

/-- The retries of every key that has failed since its last success. -/
structure BackoffTracker where
  retries : Table String Retries
deriving DecidableEq

namespace BackoffTracker

def empty : BackoffTracker := ⟨.empty⟩

instance : Inhabited BackoffTracker := ⟨empty⟩

/-- Notes a failure and gives the delay before the next attempt.  The count of failures
stops at the largest number of 32 bits. -/
def next (t : BackoffTracker) (key : String) : Duration × BackoffTracker :=
  let r := t.retries.getD key ⟨.standard, 0⟩
  let (d, delays) := r.delays.next
  (d, ⟨t.retries.insert key ⟨delays, Nat.min (r.failures + 1) (UInt32.size - 1)⟩⟩)

/-- Notes a success. -/
def reset (t : BackoffTracker) (key : String) : BackoffTracker := ⟨t.retries.erase key⟩

/-- The failures of a key since its last success. -/
def failures (t : BackoffTracker) (key : String) : Nat :=
  ((t.retries.get? key).map (·.failures)).getD 0

end BackoffTracker

end ControlPlane
