/-
Numbers of JSON.

A number without a point and an exponent is a whole number if it fits into 64 bits.
Every other number is a floating-point number.  Its digits are gathered into a word of 64
bits as long as they fit, and the word is then scaled by a power of ten in floating-point
arithmetic.  So the last digit of a long number may come out differently from the one
written, and a number too large for the arithmetic stands for no value.
-/
import ControlPlane.Json.Source
import ControlPlane.Text.Shortest

namespace ControlPlane.Json

/-- A number as it is written. -/
structure Numeral where
  negative : Bool
  /-- The digits before the point. -/
  whole : List Nat
  /-- The digits after the point. -/
  places : List Nat
  /-- The power of ten behind the `e`. -/
  power : Option Int
deriving Repr

namespace Numeral

/-- Puts digits behind a word while it stays below 64 bits, and counts those left over. -/
def gather : Nat → List Nat → Nat × Nat
  | n, [] => (n, 0)
  | n, d :: rest => if n * 10 + d < UInt64.size then gather (n * 10 + d) rest else (n, rest.length + 1)

/-- The word of a number, and the power of ten that goes with it.  Digits left over before
the point still count as places; those after it count for nothing. -/
def parts (n : Numeral) : Nat × Int :=
  let (word, dropped) := gather 0 n.whole
  let (word, ignored) := gather word n.places
  (word, dropped - (n.places.length - ignored : Int) + n.power.getD 0)

/-- The largest power of ten that is taken in one step. -/
def largestPower : Nat := 308

def powerOfTen (k : Nat) : Float := OfScientific.ofScientific 1 false k

/-- A number divided by a power of ten. -/
def scaleDown (x : Float) (k : Nat) : Float :=
  if largestPower < k then
    if x == 0 then x else scaleDown (x / powerOfTen largestPower) (k - largestPower)
  else x / powerOfTen k
termination_by k
decreasing_by simp only [largestPower] at *; omega

/-- A word times a power of ten, unless that is too large. -/
def scale (word : Nat) (exponent : Int) : Option Float :=
  let x : Float := (UInt64.ofNat word).toFloat
  if exponent < 0 then some (scaleDown x exponent.natAbs)
  else if exponent.toNat ≤ largestPower then
    let y := x * powerOfTen exponent.toNat
    if y.isInf then none else some y
  else if word = 0 then some x
  else none

/-- What a number stands for. -/
def source (n : Numeral) : Source :=
  let (word, exponent) := n.parts
  let fits := if n.negative then 0 < word ∧ word ≤ 9223372036854775808 else True
  if n.places.isEmpty ∧ n.power.isNone ∧ exponent = 0 ∧ fits then
    .int (if n.negative then -word else word)
  else
    match scale word exponent with
    | some x =>
      let (digits, exponent) := Text.shortestDecimal x
      .decimal n.negative digits exponent
    | none => .beyond

end Numeral

end ControlPlane.Json
