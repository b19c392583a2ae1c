/-
Addresses to listen on.

An address is a host of four numbers and a port, or a host of eight groups in brackets
and a port, with the number of a zone behind a percent sign if one is meant.  Two colons
stand for a run of zero groups, and the last two groups may be written as four numbers.
The printed form shortens the longest run of zero groups.
-/
import ControlPlane.Text.Digits

namespace ControlPlane

inductive SocketAddress where
  | v4 (host : List Nat) (port : Nat)
  /-- Zone zero means that none was given. -/
  | v6 (host : List Nat) (zone port : Nat)
deriving DecidableEq, Repr

namespace SocketAddress

/-! ### Reading

A reader gives what it read and the rest of the text. -/

abbrev Reader (α : Type) := List Char → Option (α × List Char)

/-- One given character. -/
def mark (m : Char) : Reader Unit
  | c :: rest => if c = m then some ((), rest) else none
  | [] => none

/-- All digits at the front of a text. -/
def digits (digit? : Char → Option Nat) : List Char → List Nat × List Char
  | [] => ([], [])
  | c :: rest =>
    match digit? c with
    | none => ([], c :: rest)
    | some d =>
      let (ds, rest) := digits digit? rest
      (d :: ds, rest)

/-- A number below a bound. -/
def number (digit? : Char → Option Nat) (base bound : Nat) : Reader Nat := fun cs =>
  match digits digit? cs with
  | ([], _) => none
  | (ds, rest) =>
    let n := ds.foldl (fun n d => n * base + d) 0
    if n < bound then some (n, rest) else none

/-- A decimal number below a bound, with or without leading zeros. -/
def decimal (bound : Nat) : Reader Nat := number Text.digit? 10 bound

/-- A number below 256 without leading zeros. -/
def octet : Reader Nat := fun cs =>
  match cs with
  | '0' :: c :: _ => if (Text.digit? c).isSome then none else decimal 256 cs
  | _ => decimal 256 cs

/-- Four numbers with points between them. -/
def hostV4 : Reader (List Nat) := fun cs => do
  let (a, cs) ← octet cs
  let ((), cs) ← mark '.' cs
  let (b, cs) ← octet cs
  let ((), cs) ← mark '.' cs
  let (c, cs) ← octet cs
  let ((), cs) ← mark '.' cs
  let (d, cs) ← octet cs
  some ([a, b, c, d], cs)

/-- A group of four hexadecimal digits at most. -/
def group : Reader Nat := fun cs =>
  if 4 < (digits Text.hexDigit? cs).1.length then none else number Text.hexDigit? 16 65536 cs

/-- Groups with colons between them, `room` of them at most, and whether the last two
were written as four numbers. -/
def groups : (room : Nat) → (first : Bool) → List Char → List Nat × Bool × List Char
  | 0, _, cs => ([], false, cs)
  | room + 1, first, cs =>
    match if first then some ((), cs) else mark ':' cs with
    | none => ([], false, cs)
    | some ((), inner) =>
      match if 0 < room then hostV4 inner else none with
      | some ([a, b, c, d], rest) => ([a * 256 + b, c * 256 + d], true, rest)
      | _ =>
        match group inner with
        | none => ([], false, cs)
        | some (g, rest) =>
          let (gs, embedded, rest) := groups room false rest
          (g :: gs, embedded, rest)

/-- Eight groups, of which two colons may stand for some. -/
def hostV6 : Reader (List Nat) := fun cs => do
  let (head, embedded, cs) := groups 8 true cs
  if head.length = 8 then some (head, cs)
  else if embedded then none
  else
    let ((), cs) ← mark ':' cs
    let ((), cs) ← mark ':' cs
    let (tail, _, cs) := groups (7 - head.length) true cs
    some (head ++ List.replicate (8 - head.length - tail.length) 0 ++ tail, cs)

/-- A port after a colon. -/
def portPart : Reader Nat := fun cs => do
  let ((), cs) ← mark ':' cs
  decimal 65536 cs

/-- The number of a zone after a percent sign, if there is one. -/
def zonePart (cs : List Char) : Nat × List Char :=
  match (do let ((), cs) ← mark '%' cs; decimal UInt32.size cs) with
  | some (zone, rest) => (zone, rest)
  | none => (0, cs)

def readV4 : Reader SocketAddress := fun cs => do
  let (host, cs) ← hostV4 cs
  let (port, cs) ← portPart cs
  some (.v4 host port, cs)

def readV6 : Reader SocketAddress := fun cs => do
  let ((), cs) ← mark '[' cs
  let (host, cs) ← hostV6 cs
  let (zone, cs) := zonePart cs
  let ((), cs) ← mark ']' cs
  let (port, cs) ← portPart cs
  some (.v6 host zone port, cs)

/-- Reads an address that fills the whole text. -/
def read? (cs : List Char) : Option SocketAddress :=
  match (readV4 cs).or (readV6 cs) with
  | some (a, []) => some a
  | _ => none

/-! ### Printing -/

def decimalText (n : Nat) : String := String.ofList (Nat.toDigits 10 n)

def hostV4Text (host : List Nat) : String := ".".intercalate (host.map decimalText)

/-- Groups with colons between them. -/
def groupsText (groups : List Nat) : String :=
  ":".intercalate (groups.map fun g => String.ofList (Nat.toDigits 16 g))

/-- The zeros at the front. -/
def zeroRun : List Nat → Nat
  | 0 :: rest => zeroRun rest + 1
  | _ => 0

/-- The start and the length of the longest run of zeros, the first one of several. -/
def longestZeroRun : List Nat → Nat × Nat
  | [] => (0, 0)
  | g :: rest =>
    let here := zeroRun (g :: rest)
    let (start, length) := longestZeroRun rest
    if length ≤ here then (0, here) else (start + 1, length)

def hostV6Text (host : List Nat) : String :=
  match host with
  | [0, 0, 0, 0, 0, 65535, x, y] =>
    "::ffff:" ++ hostV4Text [x / 256, x % 256, y / 256, y % 256]
  | _ =>
    let (start, length) := longestZeroRun host
    if 1 < length then
      groupsText (host.take start) ++ "::" ++ groupsText (host.drop (start + length))
    else groupsText host

/-- The printed form of an address. -/
def text : SocketAddress → String
  | .v4 host port => hostV4Text host ++ ":" ++ decimalText port
  | .v6 host zone port =>
    let zoneText := if zone = 0 then "" else "%" ++ decimalText zone
    "[" ++ hostV6Text host ++ zoneText ++ "]:" ++ decimalText port

end SocketAddress

end ControlPlane
