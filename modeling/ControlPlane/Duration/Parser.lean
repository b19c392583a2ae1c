/-
Reading a duration text such as `1h30m`, `1.5 s` or `2weeks 3days`.

A text is a row of numbers with a unit each.  White space may stand anywhere but inside
a unit, a number may have a decimal fraction, and the parts are summed up.  The reader
takes one character at a time; where it is in the row is a `Place`, and the sum of the
finished parts goes along with it.

All arithmetic is that of unsigned numbers of 64 bits: a product or a sum that leaves
them is an overflow, and so is a fraction that is not a whole number of nanoseconds (of
seconds from the hour upwards).  One carry is not reported as an overflow: a full second
of nanoseconds on top of the largest number of seconds.  There the reading breaks off, and
nobody is told of an error.
-/
import ControlPlane.Fallible
import ControlPlane.Duration
import ControlPlane.Text.Blank
import ControlPlane.Text.Digits
import ControlPlane.Text.Quoted

namespace ControlPlane

/-- Why a text is not a duration; places are counted in bytes. -/
inductive DurationError where
  | invalidCharacter (position : Nat)
  | numberExpected (position : Nat)
  /-- A unit that is not known, after the number `value`; it is empty if none was given. -/
  | unknownUnit (unit : String) (value : Nat)
  | numberOverflow
  | empty
deriving DecidableEq, Repr

/-- What a refused duration is told. -/
def DurationError.message : DurationError → String
  | .invalidCharacter n => s!"invalid character at {n}"
  | .numberExpected n => s!"expected number at {n}"
  | .unknownUnit unit value =>
    if unit.isEmpty then s!"time unit needed, for example {value}sec or {value}ms"
    else "unknown time unit " ++ Text.quoted unit ++
      ", supported units: ns, us/µs, ms, sec, min, hours, days, weeks, months, years (and few variations)"
  | .numberOverflow =>
    "number is too large or cannot be represented without a lack of precision (values below 1ns are not supported)"
  | .empty => "value was empty"

namespace Duration

/-! ### Units -/

inductive TimeUnit where
  | nanosecond | microsecond | millisecond | second | minute | hour | day | week | month | year
deriving DecidableEq, Repr

/-- The unit of a name; upper and lower case are different. -/
def TimeUnit.ofText? (name : String) : Option TimeUnit :=
  if name ∈ ["nanos", "nsec", "ns"] then some .nanosecond
  else if name ∈ ["usec", "us", "µs"] then some .microsecond
  else if name ∈ ["millis", "msec", "ms"] then some .millisecond
  else if name ∈ ["seconds", "second", "secs", "sec", "s"] then some .second
  else if name ∈ ["minutes", "minute", "min", "mins", "m"] then some .minute
  else if name ∈ ["hours", "hour", "hr", "hrs", "h"] then some .hour
  else if name ∈ ["days", "day", "d"] then some .day
  else if name ∈ ["weeks", "week", "wk", "wks", "w"] then some .week
  else if name ∈ ["months", "month", "M"] then some .month
  else if name ∈ ["years", "year", "yr", "yrs", "y"] then some .year
  else none

/-- The length of a unit; a month is a twelfth of a year, and a year 365.25 days. -/
def TimeUnit.nanos : TimeUnit → Nat
  | .nanosecond => 1
  | .microsecond => 1000
  | .millisecond => 1000000
  | .second => nanosPerSecond
  | .minute => 60 * nanosPerSecond
  | .hour => 3600 * nanosPerSecond
  | .day => 86400 * nanosPerSecond
  | .week => 604800 * nanosPerSecond
  | .month => 2630016 * nanosPerSecond
  | .year => 31557600 * nanosPerSecond

/-- A unit below the second, whose whole numbers are counted in nanoseconds. -/
def TimeUnit.isSubsecond : TimeUnit → Bool
  | .nanosecond | .microsecond | .millisecond => true
  | _ => false

/-- A unit whose fractions are counted in nanoseconds. -/
def TimeUnit.isFine : TimeUnit → Bool
  | .nanosecond | .microsecond | .millisecond | .second | .minute => true
  | _ => false

/-! ### Sums in 64 bits -/

/-- A number that fits into 64 bits, or an overflow. -/
def word (n : Nat) : Except DurationError Nat :=
  if n < UInt64.size then .ok n else .error .numberOverflow

/-- Adds seconds and nanoseconds to a sum.  A full second of nanoseconds is not carried before
the sum is made, so it may come on top of the largest number of seconds. -/
def addParts (sum : Duration) (seconds nanos : Nat) : Fallible DurationError Duration := do
  let nanos ← word (nanos + sum.subsecNanos)
  let carry := if nanosPerSecond < nanos then nanos / nanosPerSecond else 0
  let rest := if nanosPerSecond < nanos then nanos % nanosPerSecond else nanos
  let seconds ← word (seconds + carry)
  let seconds ← word (seconds + sum.seconds)
  if (ofParts seconds rest).InRange then .ok (ofParts seconds rest) else .abort

/-- The decimals of a number, as a quotient whose denominator is a power of ten. -/
structure Fraction where
  numerator : Nat
  denominator : Nat
deriving DecidableEq, Repr

/-- A quotient without remainder, or an overflow. -/
def exactDiv (n d : Nat) : Except DurationError Nat :=
  if n % d = 0 then .ok (n / d) else .error .numberOverflow

/-- Adds the decimals of a number of units. -/
def addFraction (sum : Duration) (unit : TimeUnit) (f : Fraction) :
    Fallible DurationError Duration :=
  if unit = .nanosecond then .error .numberOverflow
  else if unit.isFine then do
    let product ← word (f.numerator * unit.nanos)
    let nanos ← exactDiv product f.denominator
    addParts sum 0 nanos
  else do
    let product ← word (f.numerator * (unit.nanos / nanosPerSecond))
    let seconds ← exactDiv product f.denominator
    addParts sum seconds 0

/-- Adds a whole number of units. -/
def addWhole (sum : Duration) (unit : TimeUnit) (n : Nat) : Fallible DurationError Duration :=
  if unit.isSubsecond then do addParts sum 0 (← word (n * unit.nanos))
  else do addParts sum (← word (n * (unit.nanos / nanosPerSecond))) 0

/-- Adds a number with its unit. -/
def addPart (sum : Duration) (n : Nat) (f : Option Fraction) (unit : String) :
    Fallible DurationError Duration :=
  match TimeUnit.ofText? unit with
  | none => .error (.unknownUnit unit n)
  | some unit => do
    let sum ← addWhole sum unit n
    match f with
    | none => .ok sum
    | some f => addFraction sum unit f

/-! ### The reader -/

/-- A letter of a unit. -/
def isUnitLetter (c : Char) : Bool :=
  ('a' ≤ c && c ≤ 'z') || ('A' ≤ c && c ≤ 'Z') || c == 'µ'

/-- Where the reader is in the row of numbers and units. -/
inductive Place where
  /-- Before the first number. -/
  | start
  /-- After a unit, behind white space; `since` is the place from which a number is looked
  for. -/
  | between (since : Nat)
  /-- In the whole part of a number. -/
  | whole (n : Nat)
  /-- In the decimals of a number; `fault` is the place that is named if they are refused. -/
  | decimals (n : Nat) (f : Fraction) (fault : Nat)
  /-- In a unit, whose letters are held last first. -/
  | unit (n : Nat) (f : Option Fraction) (letters : List Char)
deriving Repr

/-- Takes one character, which stands at byte `pos` and is followed by byte `next`. -/
def step (sum : Duration) (place : Place) (c : Char) (pos next : Nat) :
    Fallible DurationError (Duration × Place) :=
  match place with
  | .start =>
    match Text.digit? c with
    | some d => .ok (sum, .whole d)
    | none => if Text.isBlank c then .ok (sum, .start) else .error (.numberExpected 0)
  | .between since =>
    match Text.digit? c with
    | some d => .ok (sum, .whole d)
    | none => if Text.isBlank c then .ok (sum, .between since) else .error (.numberExpected since)
  | .whole n =>
    match Text.digit? c with
    | some d => do .ok (sum, .whole (← word (n * 10 + d)))
    | none =>
      if Text.isBlank c then .ok (sum, .whole n)
      else if isUnitLetter c then .ok (sum, .unit n none [c])
      else if c = '.' then .ok (sum, .decimals n ⟨0, 1⟩ pos)
      else .error (.invalidCharacter pos)
  | .decimals n f fault =>
    match Text.digit? c with
    | some d => do
      let denominator ← word (f.denominator * 10)
      let numerator ← word (f.numerator * 10 + d)
      .ok (sum, .decimals n ⟨numerator, denominator⟩ next)
    | none =>
      if Text.isBlank c then .ok (sum, .decimals n f next)
      else if isUnitLetter c && f.denominator ≠ 1 then .ok (sum, .unit n (some f) [c])
      else .error (.invalidCharacter fault)
  | .unit n f letters =>
    match Text.digit? c with
    | some d => do .ok (← addPart sum n f (String.ofList letters.reverse), .whole d)
    | none =>
      if Text.isBlank c then do .ok (← addPart sum n f (String.ofList letters.reverse), .between next)
      else if isUnitLetter c then .ok (sum, .unit n f (c :: letters))
      else .error (.invalidCharacter pos)

/-- What a text comes to that ends here. -/
def finish (sum : Duration) : Place → Fallible DurationError Duration
  | .start => .error .empty
  | .between _ => .ok sum
  | .whole n => addPart sum n none ""
  | .decimals n f fault =>
    if f.denominator = 1 then .error (.invalidCharacter fault) else addPart sum n (some f) ""
  | .unit n f letters => addPart sum n f (String.ofList letters.reverse)

/-- Reads a text from byte `pos` on. -/
def readFrom : Duration → Place → Nat → List Char → Fallible DurationError Duration
  | sum, place, _, [] => finish sum place
  | sum, place, pos, c :: rest => do
    let (sum, place) ← step sum place c pos (pos + c.utf8Size)
    readFrom sum place (pos + c.utf8Size) rest

/-- Reads a duration.  White space around it does not count, and a bare `0` needs no unit. -/
def parse (text : String) : Fallible DurationError Duration :=
  match Text.trim text.toList with
  | ['0'] => .ok zero
  | cs => readFrom zero .start 0 cs

end Duration

end ControlPlane
