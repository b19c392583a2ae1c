/-
JSON without white space.

Fields are written in the order in which the value has them.  In a text a quote, a
backslash and the controls below the space are escaped, five of the controls by a
letter; every other character is written as itself.
-/
import ControlPlane.Json

namespace ControlPlane.Json

/-- The digits of a whole number. -/
def intText (n : Int) : List Char :=
  if n < 0 then '-' :: Nat.toDigits 10 n.natAbs else Nat.toDigits 10 n.natAbs

/-- One of sixteen digits. -/
def hexDigit (n : Nat) : Char :=
  if n < 10 then Char.ofNat ('0'.toNat + n) else Char.ofNat ('a'.toNat + (n - 10))

/-- How a text writes one character. -/
def escapedChar (c : Char) : List Char :=
  if c = '"' then ['\\', '"']
  else if c = '\\' then ['\\', '\\']
  else if c = '\n' then ['\\', 'n']
  else if c = '\r' then ['\\', 'r']
  else if c = '\t' then ['\\', 't']
  else if c.toNat = 0x8 then ['\\', 'b']
  else if c.toNat = 0xC then ['\\', 'f']
  else if c.toNat < 0x20 then
    ['\\', 'u', '0', '0', hexDigit (c.toNat / 16), hexDigit (c.toNat % 16)]
  else [c]

/-- A text between its quotes. -/
def textLiteral (s : String) : List Char :=
  '"' :: (s.toList.flatMap escapedChar ++ ['"'])

/-- A decimal, which always shows a point or an exponent.  It is written positionally
while its first digit stands between the fifth place after the point and the sixteenth
before it. -/
def decimalText (negative : Bool) (digits : Nat) (exponent : Int) : List Char :=
  let ds := Nat.toDigits 10 digits
  let whole : Int := ds.length + exponent
  let size :=
    if whole < -4 ∨ 16 < whole then
      let power := whole - 1
      let places := if ds.tail.isEmpty then [] else '.' :: ds.tail
      ds.take 1 ++ places ++ 'e' :: (if power < 0 then '-' else '+') :: Nat.toDigits 10 power.natAbs
    else if 0 ≤ exponent then ds ++ List.replicate exponent.toNat '0' ++ ['.', '0']
    else if 0 < whole then ds.take whole.toNat ++ '.' :: ds.drop whole.toNat
    else '0' :: '.' :: (List.replicate (-whole).toNat '0' ++ ds)
  if negative then '-' :: size else size

mutual

/-- The compact text of a value. -/
def compact : Json → List Char
  | .null => ['n', 'u', 'l', 'l']
  | .bool true => ['t', 'r', 'u', 'e']
  | .bool false => ['f', 'a', 'l', 's', 'e']
  | .int n => intText n
  | .decimal negative digits exponent => decimalText negative digits exponent
  | .str s => textLiteral s
  | .arr [] => ['[', ']']
  | .arr (j :: rest) => '[' :: (compact j ++ compactItems rest)
  | .obj [] => ['\x7b', '\x7d']
  | .obj ((name, j) :: rest) => '\x7b' :: (textLiteral name ++ ':' :: (compact j ++ compactFields rest))

/-- The items after the first one, and the end of the list. -/
def compactItems : List Json → List Char
  | [] => [']']
  | j :: rest => ',' :: (compact j ++ compactItems rest)

/-- The fields after the first one, and the end of the object. -/
def compactFields : List (String × Json) → List Char
  | [] => ['\x7d']
  | (name, j) :: rest => ',' :: (textLiteral name ++ ':' :: (compact j ++ compactFields rest))

end

/-- The compact text of a value. -/
def render (j : Json) : String := String.ofList (compact j)

end ControlPlane.Json
