/-
The shortest decimal of a binary fraction.

A number of 64 bits stands for all reals that round to it.  Of the decimals among them
the one with the fewest digits is taken, and of several such the one nearest to the
number.  For each count of digits only two decimals come into question: the one below
the number and the one above it.

`shortestText` writes the decimal positionally, without an exponent and without a point
when it is whole.
-/

namespace ControlPlane.Text

/-- The reals that round to a positive number, over one denominator. -/
structure Rounding where
  /-- Where they start. -/
  low : Nat
  /-- The number itself. -/
  value : Nat
  /-- Where they end. -/
  high : Nat
  denominator : Nat
  /-- The ends round to the number too. -/
  closed : Bool
deriving Repr

namespace Rounding

/-- The reals that round to `m * 2 ^ q`, where the gap below is smaller if `m` is the
least number of its length. -/
def ofBinary (m : Nat) (q : Int) (least : Bool) : Rounding :=
  let scale := Nat.pow 2 q.toNat
  { low := (4 * m - if least then 1 else 2) * scale
    value := 4 * m * scale
    high := (4 * m + 2) * scale
    denominator := 4 * Nat.pow 2 (-q).toNat
    closed := m % 2 = 0 }

/-- A fraction rounds to the number. -/
def holds (r : Rounding) (numerator denominator : Nat) : Bool :=
  let point := numerator * r.denominator
  let low := r.low * denominator
  let high := r.high * denominator
  (low < point && point < high) || (r.closed && (point = low || point = high))

/-- The least exponent of ten above the number. -/
def magnitude (r : Rounding) : Int :=
  let estimate : Int := ((r.value.log2 : Int) - r.denominator.log2) * 30103 / 100000
  let above : Int → Bool := fun e => r.value * Nat.pow 10 (-e).toNat < r.denominator * Nat.pow 10 e.toNat
  ((List.range 6).map fun (i : Nat) => estimate + (i : Int) - 2).find? above |>.getD (estimate + 4)

/-- A decimal `digits * 10 ^ exponent` of a given number of digits that rounds to the
number, if there is one. -/
def withDigits? (r : Rounding) (count : Nat) : Option (Nat × Int) :=
  let exponent := r.magnitude - count
  let up := Nat.pow 10 exponent.toNat
  let down := Nat.pow 10 (-exponent).toNat
  let below := r.value * down / (r.denominator * up)
  let fits : Nat → Bool := fun d => 0 < d && r.holds (d * up) down
  match fits below, fits (below + 1) with
  | true, true =>
    let middle := (2 * below + 1) * up * r.denominator
    let number := 2 * r.value * down
    let nearer := if number < middle || (number = middle && below % 2 = 0) then below else below + 1
    some (carried nearer exponent)
  | true, false => some (below, exponent)
  | false, true => some (carried (below + 1) exponent)
  | false, false => none
where
  /-- A decimal that has become one digit too long ends in a zero. -/
  carried (digits : Nat) (exponent : Int) : Nat × Int :=
    if digits = Nat.pow 10 count then (digits / 10, exponent + 1) else (digits, exponent)

/-- The shortest decimal; seventeen digits always suffice. -/
def shortest (r : Rounding) : Nat × Int :=
  (((List.range 17).map (· + 1)).findSome? r.withDigits?).getD (0, 0)

end Rounding

/-- The first bit of a mantissa, which is not stored. -/
def hiddenBit : Nat := 4503599627370496

/-- The shortest decimal `digits * 10 ^ exponent` of a number that is neither negative nor
infinite. -/
def shortestDecimal (x : Float) : Nat × Int :=
  let bits : Nat := x.toBits.toNat
  let field : Nat := bits / hiddenBit % 2048
  let mantissa : Nat := bits % hiddenBit
  if field = 0 && mantissa = 0 then (0, 0)
  else
    let r : Rounding :=
      if field = 0 then .ofBinary mantissa (-1074) false
      else .ofBinary (hiddenBit + mantissa) ((field : Int) - 1075) (mantissa = 0 && 1 < field)
    r.shortest

/-- A decimal without an exponent. -/
def positional (digits : Nat) (exponent : Int) : List Char :=
  let cs := Nat.toDigits 10 digits
  if 0 ≤ exponent then cs ++ List.replicate exponent.toNat '0'
  else
    let places := exponent.natAbs
    let padded := List.replicate (places + 1 - cs.length) '0' ++ cs
    padded.take (padded.length - places) ++ '.' :: padded.drop (padded.length - places)

/-- The shortest text of a number that is neither negative nor infinite. -/
def shortestText (x : Float) : String :=
  let (digits, exponent) := shortestDecimal x
  String.ofList (positional digits exponent)

end ControlPlane.Text
