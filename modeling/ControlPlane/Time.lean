/-
Moments in time, and how a condition writes them.

A moment counts seconds from the start of 1970 in UTC, and nanoseconds within the
second.  In a leap second the nanoseconds run on past a full second, so that it lies
after the second it follows and is still written with the number 60.

A moment is written in UTC to the whole second, which drops its fraction.  The reader
is more generous than the writer: it takes an offset, a fraction, a lower-case `t` or a
space between date and time, and white space around the numbers.
-/
import ControlPlane.Duration
import ControlPlane.Text.Blank
import ControlPlane.Text.Digits
import ControlPlane.Time.Calendar

namespace ControlPlane

structure Time where
  seconds : Int
  nanos : Nat
deriving DecidableEq, Repr, Inhabited

namespace Time

/-- The moment without its fraction of a second; a leap second keeps its place. -/
def truncate (t : Time) : Time := ⟨t.seconds, if t.nanos < 1000000000 then 0 else 1000000000⟩

/-- The span from an earlier moment to a later one. -/
def since (finish start : Time) : Duration :=
  ⟨((finish.seconds - start.seconds) * 1000000000 + (finish.nanos - start.nanos : Int)).toNat⟩

/-- A moment later by a span. -/
def after (t : Time) (d : Duration) : Time :=
  let nanos := t.nanos + d.nanos
  ⟨t.seconds + (nanos / 1000000000 : Nat), nanos % 1000000000⟩

/-! ### Writing -/

/-- The digits of a number, filled up with zeros to a width. -/
def padded (width n : Nat) : List Char :=
  let digits := Nat.toDigits 10 n
  List.replicate (width - digits.length) '0' ++ digits

/-- A year has four digits; outside of 0 to 9999 it has a sign and may have more. -/
def yearText (year : Int) : List Char :=
  if 0 ≤ year ∧ year ≤ 9999 then padded 4 year.toNat
  else (if year < 0 then '-' else '+') :: padded 4 year.natAbs

/-- The moment in UTC and whole seconds. -/
def text (t : Time) : String :=
  let days := t.seconds.fdiv 86400
  let ofDay := (t.seconds - days * 86400).toNat
  let date := Calendar.ofDays days
  let second := ofDay % 60 + t.nanos / 1000000000
  String.ofList <|
    yearText date.year ++ '-' :: padded 2 date.month ++ '-' :: padded 2 date.day ++
      'T' :: padded 2 (ofDay / 3600) ++ ':' :: padded 2 (ofDay / 60 % 60) ++
      ':' :: padded 2 second ++ ['Z']

/-! ### Reading -/

/-- Digits at the front of a text, `most` of them at most, added onto a number. -/
def digitsFrom : (most : Nat) → Nat → List Char → Nat × List Char
  | 0, n, cs => (n, cs)
  | _, n, [] => (n, [])
  | most + 1, n, c :: rest =>
    match Text.digit? c with
    | some d => digitsFrom most (n * 10 + d) rest
    | none => (n, c :: rest)

/-- A number of at least one digit, and `most` of them at most. -/
def number? (most : Nat) (cs : List Char) : Option (Nat × List Char) :=
  match cs with
  | [] => none
  | c :: _ => if (Text.digit? c).isSome then some (digitsFrom most 0 cs) else none

/-- A number after white space, which must not exceed a bound. -/
def spacedNumber? (most bound : Nat) (cs : List Char) : Option (Nat × List Char) :=
  match number? most (Text.trimStart cs) with
  | some (n, rest) => if n ≤ bound then some (n, rest) else none
  | none => none

/-- A mark after white space. -/
def mark? (m : Char) (cs : List Char) : Option (List Char) :=
  match Text.trimStart cs with
  | c :: rest => if c = m then some rest else none
  | [] => none

/-- A year: four digits at most, or a sign and any number of them. -/
def year? (cs : List Char) : Option (Int × List Char) :=
  match Text.trimStart cs with
  | '-' :: rest => (number? rest.length rest).map fun (n, rest) => (-(n : Int), rest)
  | '+' :: rest => (number? rest.length rest).map fun (n, rest) => ((n : Int), rest)
  | cs => (number? 4 cs).map fun (n, rest) => ((n : Int), rest)

/-- The years that have a calendar here. -/
def inReach (year : Int) : Bool := -262143 ≤ year && year ≤ 262142

/-- A day of the calendar within reach. -/
def date? (cs : List Char) : Option (Calendar.Date × List Char) := do
  let (year, cs) ← year? cs
  let cs ← mark? '-' cs
  let (month, cs) ← spacedNumber? 2 12 cs
  let cs ← mark? '-' cs
  let (day, cs) ← spacedNumber? 2 31 cs
  let date : Calendar.Date := ⟨year, month, day⟩
  if date.Valid ∧ inReach year then some (date, cs) else none

/-- The nanoseconds after a point, if there is one; digits after the ninth do not count. -/
def fraction? (cs : List Char) : Option (Nat × List Char) :=
  match cs with
  | '.' :: rest =>
    match number? 9 rest with
    | some (n, after) =>
      let width := rest.length - after.length
      some (n * Nat.pow 10 (9 - width), after.dropWhile fun c => (Text.digit? c).isSome)
    | none => none
  | _ => some (0, cs)

/-- The seconds since midnight, and the nanoseconds beyond them. -/
def clock? (cs : List Char) : Option (Nat × Nat × List Char) := do
  let (hour, cs) ← spacedNumber? 2 23 cs
  let cs ← mark? ':' cs
  let (minute, cs) ← spacedNumber? 2 59 cs
  let cs ← mark? ':' cs
  let (second, cs) ← spacedNumber? 2 60 cs
  let (nanos, cs) ← fraction? cs
  let leap := if second = 60 then 1 else 0
  some (hour * 3600 + minute * 60 + (second - leap), nanos + leap * 1000000000, cs)

/-- Two digits, the first of which must not exceed a bound. -/
def twoDigits? (bound : Nat) : List Char → Option (Nat × List Char)
  | a :: b :: rest => do
    let a ← Text.digit? a
    let b ← Text.digit? b
    if a ≤ bound then some (a * 10 + b, rest) else none
  | _ => none

/-- The offset from UTC in seconds. -/
def offset? (cs : List Char) : Option (Int × List Char) :=
  match cs with
  | 'Z' :: rest | 'z' :: rest => some (0, rest)
  | u :: t :: c :: rest =>
    if u.toUpper = 'U' ∧ t.toUpper = 'T' ∧ c.toUpper = 'C' then some (0, rest)
    else if u = '+' then signed 1 (t :: c :: rest)
    else if u = '-' ∨ u = '−' then signed (-1) (t :: c :: rest)
    else none
  | _ => none
where
  /-- Hours and minutes, which a colon or white space may part. -/
  signed (sign : Int) (cs : List Char) : Option (Int × List Char) := do
    let (hours, cs) ← twoDigits? 9 cs
    let (minutes, cs) ← twoDigits? 5 (cs.dropWhile fun c => c = ':' || Text.isBlank c)
    if hours < 24 then some (sign * (hours * 3600 + minutes * 60), cs) else none

/-- Reads a moment, which must lie within reach in UTC too. -/
def read? (text : String) : Option Time := do
  let (date, cs) ← date? text.toList
  let cs ← match cs with
    | 'T' :: rest | 't' :: rest | ' ' :: rest => some rest
    | _ => none
  let (ofDay, nanos, cs) ← clock? cs
  let (offset, cs) ← offset? (Text.trimStart cs)
  let seconds : Int := Calendar.toDays date * 86400 + ofDay - offset
  if (Text.trimStart cs).isEmpty ∧ inReach (Calendar.ofDays (seconds.fdiv 86400)).year then
    some ⟨seconds, nanos⟩
  else none

end Time

end ControlPlane
