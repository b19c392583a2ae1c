/-
Reading JSON text.

The reader takes the grammar of RFC 8259.  It gives the source of a text, in which arrays
and objects that lie too deep, numbers too large and texts with half of a surrogate pair
are marked as beyond every value.  Every step takes characters from the text, so the
length of the text bounds the number of steps.
-/
import ControlPlane.Json.Number
import ControlPlane.Text.Digits

namespace ControlPlane.Json

/-- White space of JSON: four characters only. -/
def isSpace (c : Char) : Bool := c = ' ' || c = '\n' || c = '\t' || c = '\r'

def skipSpace (cs : List Char) : List Char := cs.dropWhile isSpace

/-! ### Texts -/

/-- The number of four hexadecimal digits. -/
def codeUnit? (a b c d : Char) : Option Nat := do
  let a ← Text.hexDigit? a
  let b ← Text.hexDigit? b
  let c ← Text.hexDigit? c
  let d ← Text.hexDigit? d
  some (((a * 16 + b) * 16 + c) * 16 + d)

/-- The number is the first half of a surrogate pair. -/
def isHigh (n : Nat) : Bool := 0xD800 ≤ n && n < 0xDC00

/-- The number is the second half of a surrogate pair. -/
def isLow (n : Nat) : Bool := 0xDC00 ≤ n && n < 0xE000

/-- The character of an escape that is one letter long. -/
def shortEscape? : Char → Option Char
  | '"' => some '"'
  | '\\' => some '\\'
  | '/' => some '/'
  | 'b' => some (Char.ofNat 0x8)
  | 'f' => some (Char.ofNat 0xC)
  | 'n' => some '\n'
  | 'r' => some '\r'
  | 't' => some '\t'
  | _ => none

/-- The code units of a text after its opening quote, up to the closing one.  A character
that is not escaped counts as one unit. -/
def unitsRest : List Nat → List Char → Option (List Nat × List Char)
  | _, [] => none
  | acc, '"' :: rest => some (acc.reverse, rest)
  | acc, '\\' :: 'u' :: a :: b :: c :: d :: rest =>
    match codeUnit? a b c d with
    | some n => unitsRest (n :: acc) rest
    | none => none
  | acc, '\\' :: c :: rest =>
    match shortEscape? c with
    | some c => unitsRest (c.toNat :: acc) rest
    | none => none
  | acc, c :: rest => if c.toNat < 0x20 then none else unitsRest (c.toNat :: acc) rest

/-- The characters of code units, unless half of a pair stands alone; `acc` holds those
already read, last first. -/
def charsOfUnits? : List Char → List Nat → Option (List Char)
  | acc, [] => some acc.reverse
  | acc, [n] => if isHigh n || isLow n then none else some (Char.ofNat n :: acc).reverse
  | acc, n :: m :: rest =>
    if isHigh n then
      if isLow m then
        charsOfUnits? (Char.ofNat (0x10000 + (n - 0xD800) * 0x400 + (m - 0xDC00)) :: acc) rest
      else none
    else if isLow n then none
    else charsOfUnits? (Char.ofNat n :: acc) (m :: rest)

/-- Reads the rest of a text after its opening quote; the text may stand for no value. -/
def textRest (cs : List Char) : Option (Option String × List Char) :=
  (unitsRest [] cs).map fun (units, rest) => ((charsOfUnits? [] units).map String.ofList, rest)

/-! ### Numbers -/

/-- A run of digits and what follows it. -/
def digitRun : List Char → List Nat × List Char
  | [] => ([], [])
  | c :: rest =>
    match Text.digit? c with
    | some d => let (ds, rest) := digitRun rest; (d :: ds, rest)
    | none => ([], c :: rest)

/-- The digits after a point, if there is one. -/
def placesPart : List Char → Option (List Nat × List Char)
  | '.' :: rest =>
    match digitRun rest with
    | ([], _) => none
    | (ds, rest) => some (ds, rest)
  | cs => some ([], cs)

/-- The number that some digits write. -/
def digitsValue (ds : List Nat) : Nat := ds.foldl (fun n d => n * 10 + d) 0

/-- The power of ten after an `e`, if there is one. -/
def powerPart (cs : List Char) : Option (Option Int × List Char) :=
  let signed (sign : Int) (cs : List Char) : Option (Option Int × List Char) :=
    match digitRun cs with
    | ([], _) => none
    | (ds, rest) => some (some (sign * digitsValue ds), rest)
  match cs with
  | c :: rest =>
    if c = 'e' ∨ c = 'E' then
      match rest with
      | '+' :: rest => signed 1 rest
      | '-' :: rest => signed (-1) rest
      | _ => signed 1 rest
    else some (none, cs)
  | [] => some (none, [])

/-- Reads a number from behind its sign.  Only a lone zero may start with a zero. -/
def number (negative : Bool) (cs : List Char) : Option (Source × List Char) := do
  let (whole, rest) ← match digitRun cs with
    | ([], _) | (0 :: _ :: _, _) => none
    | (ds, rest) => some (ds, rest)
  let (places, rest) ← placesPart rest
  let (power, rest) ← powerPart rest
  some (Numeral.source { negative, whole, places, power }, rest)

/-! ### Values -/

/-- Reads the letters of a word that is already known. -/
def word (letters : List Char) (s : Source) (cs : List Char) : Option (Source × List Char) :=
  if letters.isPrefixOf cs then some (s, cs.drop letters.length) else none

/-- An array or object with room for `depth` further levels where it stands. -/
def within (depth : Nat) (s : Source) : Source := if depth = 0 then .beyond else s

/-- An object of fields, last first; a name that is beyond takes the object with it. -/
def objectSource (fields : List (Option String × Source)) : Source :=
  match fields.reverse.mapM fun e => e.1.map fun name => (name, e.2) with
  | some fields => .obj fields
  | none => .beyond

mutual

/-- Reads one value from the front of a text, with room for `depth` levels of nesting. -/
def value : (steps : Nat) → (depth : Nat) → List Char → Option (Source × List Char)
  | 0, _, _ => none
  | steps + 1, depth, cs =>
    match skipSpace cs with
    | '"' :: rest =>
      (textRest rest).map fun (s, rest) => ((s.map Source.str).getD .beyond, rest)
    | '[' :: rest =>
      match skipSpace rest with
      | ']' :: rest => some (within depth (.arr []), rest)
      | rest => items steps depth [] rest
    | '\x7b' :: rest =>
      match skipSpace rest with
      | '\x7d' :: rest => some (within depth (.obj []), rest)
      | rest => members steps depth [] rest
    | '-' :: rest => number true rest
    | 'n' :: rest => word ['u', 'l', 'l'] .null rest
    | 't' :: rest => word ['r', 'u', 'e'] (.bool true) rest
    | 'f' :: rest => word ['a', 'l', 's', 'e'] (.bool false) rest
    | rest => number false rest

/-- Reads the items of a list up to its end; `acc` holds those already read, last first. -/
def items : (steps : Nat) → (depth : Nat) → List Source → List Char →
    Option (Source × List Char)
  | 0, _, _, _ => none
  | steps + 1, depth, acc, cs =>
    match value steps (depth - 1) cs with
    | none => none
    | some (s, rest) =>
      match skipSpace rest with
      | ',' :: rest => items steps depth (s :: acc) rest
      | ']' :: rest => some (within depth (.arr (s :: acc).reverse), rest)
      | _ => none

/-- Reads the fields of an object up to its end; `acc` holds those already read, last first. -/
def members : (steps : Nat) → (depth : Nat) → List (Option String × Source) → List Char →
    Option (Source × List Char)
  | 0, _, _, _ => none
  | steps + 1, depth, acc, cs =>
    match skipSpace cs with
    | '"' :: rest =>
      match textRest rest with
      | none => none
      | some (name, rest) =>
        match skipSpace rest with
        | ':' :: rest =>
          match value steps (depth - 1) rest with
          | none => none
          | some (s, rest) =>
            match skipSpace rest with
            | ',' :: rest => members steps depth ((name, s) :: acc) rest
            | '\x7d' :: rest => some (within depth (objectSource ((name, s) :: acc)), rest)
            | _ => none
        | _ => none
    | _ => none

end

/-- How many arrays and objects may lie inside one another. -/
def nestingLimit : Nat := 127

/-- Reads a whole text. -/
def Source.parse? (cs : List Char) : Option Source :=
  match value (2 * cs.length + 2) nestingLimit cs with
  | some (s, rest) => if (skipSpace rest).isEmpty then some s else none
  | none => none

/-- Reads a whole text as one value. -/
def parse? (cs : List Char) : Option Json := (Source.parse? cs).bind Source.value?

end ControlPlane.Json
