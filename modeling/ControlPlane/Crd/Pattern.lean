/-
Patterns for texts.

A published schema may say which texts a field takes, in the notation of regular
expressions.  `text` writes a pattern down, and `Matches` says which texts it takes.
-/

namespace ControlPlane.Crd

/-- Some characters: single ones and ranges, in the order in which they are written. -/
inductive CharRange where
  | one (c : Char)
  | range (first last : Char)
deriving DecidableEq, Repr

namespace CharRange

def contains (r : CharRange) (c : Char) : Bool :=
  match r with
  | .one d => c = d
  | .range first last => first ≤ c && c ≤ last

def text : CharRange → List Char
  | .one c => [c]
  | .range first last => [first, '-', last]

end CharRange

inductive Pattern where
  /-- One character of a class. -/
  | oneOf (ranges : List CharRange)
  /-- A number of characters of a class within bounds. -/
  | repeated (ranges : List CharRange) (least most : Nat)
  | followedBy (p q : Pattern)
  /-- The pattern or nothing. -/
  | optional (p : Pattern)
deriving DecidableEq, Repr

namespace Pattern

/-- A character of a class. -/
def inClass (ranges : List CharRange) (c : Char) : Bool := ranges.any (·.contains c)

/-- A class between its brackets. -/
def classText (ranges : List CharRange) : List Char :=
  '[' :: (ranges.flatMap CharRange.text ++ [']'])

/-- The pattern without its ends. -/
def body : Pattern → List Char
  | .oneOf ranges => classText ranges
  | .repeated ranges least most =>
    classText ranges ++ '\x7b' :: (Nat.toDigits 10 least ++ ',' :: Nat.toDigits 10 most) ++ ['\x7d']
  | .followedBy p q => p.body ++ q.body
  | .optional p => '(' :: (p.body ++ [')', '?'])

/-- The pattern for a whole text. -/
def text (p : Pattern) : String := String.ofList ('^' :: (p.body ++ ['$']))

/-- The texts that a pattern takes. -/
def Matches : Pattern → List Char → Prop
  | .oneOf ranges, s => ∃ c, inClass ranges c = true ∧ s = [c]
  | .repeated ranges least most, s =>
    (∀ c ∈ s, inClass ranges c = true) ∧ least ≤ s.length ∧ s.length ≤ most
  | .followedBy p q, s => ∃ front back, s = front ++ back ∧ p.Matches front ∧ q.Matches back
  | .optional p, s => s = [] ∨ p.Matches s

end Pattern

end ControlPlane.Crd
