/-
Digits, and whole numbers in decimal digits.

`readBounded` reads a number that must stay below a bound and says why a text is
refused: it is empty, it holds something that is not a digit, or the number is too
large. The first fault met from the left is the one reported.
-/

namespace ControlPlane.Text

/-- The value of an ASCII digit. -/
def digit? (c : Char) : Option Nat :=
  if '0' ≤ c ∧ c ≤ '9' then some (c.toNat - '0'.toNat) else none

/-- The value of a hexadecimal digit, in letters of either case. -/
def hexDigit? (c : Char) : Option Nat :=
  if 'a' ≤ c ∧ c ≤ 'f' then some (c.toNat - 'a'.toNat + 10)
  else if 'A' ≤ c ∧ c ≤ 'F' then some (c.toNat - 'A'.toNat + 10)
  else digit? c

/-- Why a text is not a number of the wanted size. -/
inductive NumberError where
  | empty
  | notADigit
  | tooLarge
deriving DecidableEq, Repr

/-- What a refused number is told. -/
def NumberError.message : NumberError → String
  | .empty => "cannot parse integer from empty string"
  | .notADigit => "invalid digit found in string"
  | .tooLarge => "number too large to fit in target type"

/-- Reads further digits onto `n`, staying below `bound`. -/
def readDigits (bound : Nat) : Nat → List Char → Except NumberError Nat
  | n, [] => .ok n
  | n, c :: rest =>
    match digit? c with
    | none => .error .notADigit
    | some d => if n * 10 + d < bound then readDigits bound (n * 10 + d) rest else .error .tooLarge

/-- Reads a number below `bound`; one plus sign may stand in front of its digits. -/
def readBounded (bound : Nat) : List Char → Except NumberError Nat
  | [] => .error .empty
  | ['+'] => .error .notADigit
  | '+' :: rest => readDigits bound 0 rest
  | cs => readDigits bound 0 cs

end ControlPlane.Text
