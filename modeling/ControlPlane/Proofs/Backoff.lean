/-
The rows of delays and the tracker of them.

`Backoff.row` is the row after some number of delays, in closed form.  `next` leads from
each of these rows to the following one and `reset` leads back to the first, so nothing
else is ever seen of a row.  The cap is applied to each term, and a sum of two capped terms
is capped to the same as their uncapped sum; so the cap does not disturb the Fibonacci
numbers before it is reached, and for a cap in range the saturating sum never saturates.
`delay_after_uses` says so of all delays that are taken from a row, whatever resets are
between them.

The tracker is a row for each key, at its start for a key that has none.
-/
import ControlPlane.Backoff
import Mathlib.Data.Nat.Fib.Basic

namespace ControlPlane

/-! ### Spans of time -/

theorem eq_of_nanos {a b : Duration} (h : a.nanos = b.nanos) : a = b := congrArg Duration.mk h

theorem nanos_min (a b : Duration) : (a.min b).nanos = min a.nanos b.nanos := by
  unfold Duration.min
  by_cases h : a.nanos ≤ b.nanos
  · rw [if_pos h]
    exact (Nat.min_eq_left h).symm
  · rw [if_neg h]
    exact (Nat.min_eq_right (Nat.le_of_not_le h)).symm

/-- Behind a cap in range nothing is seen of the saturation. -/
theorem nanos_saturatingAdd_min {a b cap : Duration} (hcap : cap.InRange) :
    ((a.saturatingAdd b).min cap).nanos = min (a.nanos + b.nanos) cap.nanos := by
  have hlimit : cap.nanos ≤ Duration.limit.nanos := Nat.le_sub_one_of_lt hcap
  unfold Duration.saturatingAdd
  rw [nanos_min, nanos_min]
  dsimp only
  omega

/-! ### Rows -/

namespace Backoff

variable {shortest cap : Duration}

/-- The delays of a row by their number.  The first one is taken as it is. -/
def delay (shortest cap : Duration) : Nat → Duration
  | 0 => .zero
  | 1 => shortest
  | n + 2 => ⟨min (Nat.fib (n + 2) * shortest.nanos) cap.nanos⟩

/-- The row after so many delays. -/
def row (shortest cap : Duration) (n : Nat) : Backoff :=
  ⟨shortest, delay shortest cap n, delay shortest cap (n + 1), cap⟩

/-- Capped terms add up to the following term. -/
theorem delay_add (n : Nat) :
    min ((delay shortest cap n).nanos + (delay shortest cap (n + 1)).nanos) cap.nanos =
      (delay shortest cap (n + 2)).nanos := by
  match n with
  | 0 =>
    show min (0 + shortest.nanos) cap.nanos = min (Nat.fib 2 * shortest.nanos) cap.nanos
    rw [Nat.fib_two, Nat.zero_add, Nat.one_mul]
  | 1 =>
    show min (shortest.nanos + min (Nat.fib 2 * shortest.nanos) cap.nanos) cap.nanos =
      min (Nat.fib 3 * shortest.nanos) cap.nanos
    have hthree : Nat.fib 3 = 2 := rfl
    rw [Nat.fib_two, hthree]
    omega
  | n + 2 =>
    have hfib : Nat.fib (n + 4) * shortest.nanos =
        Nat.fib (n + 2) * shortest.nanos + Nat.fib (n + 3) * shortest.nanos := by
      rw [Nat.fib_add_two, Nat.add_mul]
    show min (min (Nat.fib (n + 2) * shortest.nanos) cap.nanos +
        min (Nat.fib (n + 3) * shortest.nanos) cap.nanos) cap.nanos =
      min (Nat.fib (n + 4) * shortest.nanos) cap.nanos
    rw [hfib]
    omega

theorem row_zero : row shortest cap 0 = start shortest cap := rfl

theorem reset_row (n : Nat) : (row shortest cap n).reset = row shortest cap 0 := rfl

/-- Each row gives its delay and leads to the following one. -/
theorem next_row (hcap : cap.InRange) (n : Nat) :
    (row shortest cap n).next = (delay shortest cap (n + 1), row shortest cap (n + 1)) := by
  have hcurrent : ((delay shortest cap n).saturatingAdd (delay shortest cap (n + 1))).min cap =
      delay shortest cap (n + 2) :=
    eq_of_nanos ((nanos_saturatingAdd_min hcap).trans (delay_add n))
  unfold next row
  dsimp only
  rw [hcurrent]

/-- The rows that retries of the controller are in. -/
def standardRow (n : Nat) : Backoff := row (.ofSeconds 5) (.ofSeconds 300) n

theorem next_standardRow (n : Nat) :
    (standardRow n).next =
      (.ofSeconds (min (Nat.fib (n + 1) * 5) 300), standardRow (n + 1)) := by
  have hdelay : delay (.ofSeconds 5) (.ofSeconds 300) (n + 1) =
      .ofSeconds (min (Nat.fib (n + 1) * 5) 300) := by
    match n with
    | 0 => rfl
    | n + 1 =>
      refine eq_of_nanos ?_
      show min (Nat.fib (n + 2) * (5 * 1000000000)) (300 * 1000000000) =
        min (Nat.fib (n + 2) * 5) 300 * 1000000000
      omega
  unfold standardRow
  rw [next_row (by decide), hdelay]

/-! ### Rows in use -/

/-- What is done with a row. -/
inductive Use where
  | next
  | reset
deriving DecidableEq, Repr

/-- The row after some uses, which are listed from the last one back. -/
def after (b : Backoff) : List Use → Backoff
  | [] => b
  | .next :: earlier => (b.after earlier).next.2
  | .reset :: earlier => (b.after earlier).reset

/-- How many delays were taken since the last reset, or since the start. -/
def taken (uses : List Use) : Nat := (uses.takeWhile (· = .next)).length

theorem taken_next {earlier : List Use} : taken (.next :: earlier) = taken earlier + 1 := by
  simp [taken]

theorem taken_reset {earlier : List Use} : taken (.reset :: earlier) = 0 := by
  simp [taken]

/-- However a row is used, nothing but the delays since the last reset is seen of it. -/
theorem after_eq_row (hcap : cap.InRange) (uses : List Use) :
    (start shortest cap).after uses = row shortest cap (taken uses) := by
  induction uses with
  | nil => exact row_zero.symm
  | cons use earlier ih =>
    cases use with
    | next => rw [after, ih, next_row hcap, taken_next]
    | reset => rw [after, ih, reset_row, taken_reset]

theorem next_after (hcap : cap.InRange) (uses : List Use) :
    ((start shortest cap).after uses).next.1 = delay shortest cap (taken uses + 1) := by
  rw [after_eq_row hcap, next_row hcap]

theorem delay_le_cap (n : Nat) : delay shortest cap (n + 2) ≤ cap := Nat.min_le_right _ _

theorem delay_le_succ (h : shortest ≤ cap) (n : Nat) :
    delay shortest cap (n + 1) ≤ delay shortest cap (n + 2) := by
  match n with
  | 0 =>
    have hfirst : shortest.nanos ≤ Nat.fib 2 * shortest.nanos := by
      rw [Nat.fib_two, Nat.one_mul]
    exact Nat.le_min.mpr ⟨hfirst, h⟩
  | n + 1 =>
    have hfib : Nat.fib (n + 2) * shortest.nanos ≤ Nat.fib (n + 3) * shortest.nanos :=
      Nat.mul_le_mul_right _ Nat.fib_le_fib_succ
    exact Nat.le_min.mpr ⟨(Nat.min_le_left _ _).trans hfib, Nat.min_le_right _ _⟩

/-- **The delays in closed form.**  However a row was used before, with delays and resets in any
order, the `k`-th delay since its start or its last reset is the shortest one for `k = 1`, and
for every other `k` the smaller of the cap and the shortest delay times the `k`-th Fibonacci number.
The product is exact, so nothing is ever seen of the saturation.  If the shortest delay is within
the cap, no delay is followed by a smaller one; and no delay but a first one exceeds the cap. -/
theorem delay_after_uses (hcap : cap.InRange) (uses : List Use) :
    let k := taken uses + 1
    let d := ((start shortest cap).after uses).next.1
    d.nanos = (if k = 1 then shortest.nanos else min (Nat.fib k * shortest.nanos) cap.nanos) ∧
      (shortest ≤ cap → d ≤ ((start shortest cap).after (.next :: uses)).next.1) ∧
      (k ≠ 1 → d ≤ cap) := by
  dsimp only
  rw [next_after hcap, next_after hcap, taken_next]
  refine ⟨?_, fun h => delay_le_succ h _, ?_⟩
  · cases taken uses with
    | zero => rfl
    | succ n => exact (if_neg (Nat.succ_ne_succ_iff.mpr (Nat.succ_ne_zero n))).symm
  · intro hk
    obtain ⟨n, hn⟩ := Nat.exists_eq_succ_of_ne_zero fun hzero => hk (congrArg (· + 1) hzero)
    rw [hn]
    exact delay_le_cap n

/-- The sum of the two delays is one nanosecond more than the longest span in range; before the
reset a delay was taken as well.  The other row starts above its cap. -/
theorem delay_after_uses_saturating :
    Duration.limit.InRange ∧
      ((start (.ofSeconds (2 ^ 63)) .limit).after [.next, .next, .reset, .next]).next.1 = .limit ∧
      ((start .limit (.ofSeconds 5)).after []).next.1 = .limit ∧
      ((start .limit (.ofSeconds 5)).after [.next]).next.1 ≤ .ofSeconds 5 := by
  have hthird :
      ((start (.ofSeconds (2 ^ 63)) .limit).after [.next, .next, .reset, .next]).next.1.nanos =
        min (Nat.fib 3 * (Duration.ofSeconds (2 ^ 63)).nanos) Duration.limit.nanos :=
    (delay_after_uses Duration.limit_inRange [.next, .next, .reset, .next]).1
  have hlimit : min (Nat.fib 3 * (Duration.ofSeconds (2 ^ 63)).nanos) Duration.limit.nanos =
      Duration.limit.nanos := by decide
  have hcap : (Duration.ofSeconds 5).InRange := by decide
  refine ⟨Duration.limit_inRange, eq_of_nanos (hthird.trans hlimit),
    eq_of_nanos (delay_after_uses hcap []).1, (delay_after_uses hcap [.next]).2.2 ?_⟩
  decide

end Backoff

/-! ### The tracker -/

namespace BackoffTracker

variable {t : BackoffTracker} {key key' : String}

/-- What a failure makes of the retries of a key, and the delay that it is given. -/
def advance (retries : Option Retries) : Duration × Retries :=
  let r := retries.getD ⟨.standard, 0⟩
  (r.delays.next.1, ⟨r.delays.next.2, Nat.min (r.failures + 1) (UInt32.size - 1)⟩)

/-- A failure is given its delay by its key's retries. -/
theorem next_fst : (t.next key).1 = (advance (t.retries.get? key)).1 := rfl

theorem get?_next : (t.next key).2.retries.get? key' =
    if key' = key then some (advance (t.retries.get? key)).2 else t.retries.get? key' :=
  Table.get?_insert _ _ _ _

theorem get?_reset :
    (t.reset key).retries.get? key' = if key' = key then none else t.retries.get? key' :=
  Table.get?_erase _ _ _

theorem failures_reset : (t.reset key).failures key = 0 := by
  unfold failures
  rw [get?_reset, if_pos rfl]
  rfl

/-- The row that a key is in. -/
def rowOf (t : BackoffTracker) (key : String) : Backoff :=
  ((t.retries.get? key).getD ⟨.standard, 0⟩).delays

theorem next_fst_eq : (t.next key).1 = (t.rowOf key).next.1 := rfl

theorem rowOf_next :
    (t.next key).2.rowOf key' = if key' = key then (t.rowOf key).next.2 else t.rowOf key' := by
  unfold rowOf
  rw [get?_next]
  by_cases h : key' = key
  · rw [if_pos h, if_pos h]
    rfl
  · rw [if_neg h, if_neg h]

theorem rowOf_reset :
    (t.reset key).rowOf key' = if key' = key then Backoff.standardRow 0 else t.rowOf key' := by
  unfold rowOf
  rw [get?_reset]
  by_cases h : key' = key
  · rw [if_pos h, if_pos h]
    rfl
  · rw [if_neg h, if_neg h]

end BackoffTracker

end ControlPlane
