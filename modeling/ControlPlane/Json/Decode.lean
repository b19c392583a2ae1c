/-
Reading values of the library's types from JSON.

A record is written as an object, and fields that it does not know are passed over.  The
records of the resource's own types may also be written as a list of their fields in
the order of their declaration, and name no field twice; in the common types of the
cluster API the last field of a name stays, but all of them are read.  A field that is
required and absent is an error of its own, since only that fault is told apart from the
others.
-/
import ControlPlane.Json.Source

namespace ControlPlane.Json

/-- Why a value does not fit a type. -/
inductive DecodeError where
  /-- A required field is absent. -/
  | missingField (name : String)
  /-- Some part has the wrong shape. -/
  | mismatch
deriving DecidableEq, Repr

/-- What a value is told that does not fit; only a missing field has a text of its own. -/
def DecodeError.message? : DecodeError → Option String
  | .missingField name => some s!"missing field `{name}`"
  | .mismatch => none

abbrev Decoded := Except DecodeError

/-! ### Plain values -/

def asString : Source → Decoded String
  | .str s => .ok s
  | _ => .error .mismatch

def asBool : Source → Decoded Bool
  | .bool b => .ok b
  | _ => .error .mismatch

/-- A whole number of 64 bits with a sign. -/
def asInt64 : Source → Decoded Int
  | .int n => if -9223372036854775808 ≤ n ∧ n ≤ 9223372036854775807 then .ok n else .error .mismatch
  | _ => .error .mismatch

/-- A whole number below a bound. -/
def asNatBelow (bound : Nat) : Source → Decoded Nat
  | .int n => if 0 ≤ n ∧ n < bound then .ok n.toNat else .error .mismatch
  | _ => .error .mismatch

/-- Null reads as unset. -/
def asOptional (read : Source → Decoded α) : Source → Decoded (Option α)
  | .null => .ok none
  | s => some <$> read s

def asList (read : Source → Decoded α) : Source → Decoded (List α)
  | .arr items => items.mapM read
  | _ => .error .mismatch

/-- Any value is taken as it is. -/
def asValue (s : Source) : Decoded Json :=
  match s.value? with
  | some j => .ok j
  | none => .error .mismatch

/-- Reads the source of every field. -/
def readFields (read : Source → Decoded α) : List (String × Source) → Decoded (List (String × α))
  | [] => .ok []
  | (name, s) :: rest => do
    let a ← read s
    let as ← readFields read rest
    .ok ((name, a) :: as)

def asTable (read : Source → Decoded α) : Source → Decoded (Table String α)
  | .obj fields => Table.ofList <$> readFields read fields
  | _ => .error .mismatch

/-- A table of texts, written as an object. -/
def ofTexts (t : Table String String) : Json :=
  .obj (t.entries.map fun e => (e.1, .str e.2))

def ofTextList (l : List String) : Json := .arr (l.map .str)

/-! ### Records -/

/-- The fields of a record as they are written. -/
inductive Record where
  /-- By name; `once` if no field that is asked for may occur twice. -/
  | named (once : Bool) (fields : List (String × Source))
  /-- By position. -/
  | listed (items : List Source)

/-- The fields of a record that is written as an object, in which the last field of a name
stays. -/
def asObject : Source → Decoded Record
  | .obj fields => .ok (.named false fields)
  | _ => .error .mismatch

/-- The fields of a record that is written as an object, in which no field occurs twice. -/
def asStrictObject : Source → Decoded Record
  | .obj fields => .ok (.named true fields)
  | _ => .error .mismatch

/-- The fields of a record, written as an object in which no field occurs twice or as a list
of at least `least` and at most `most` fields. -/
def asRecord (least most : Nat) : Source → Decoded Record
  | .arr items =>
    if least ≤ items.length ∧ items.length ≤ most then .ok (.listed items) else .error .mismatch
  | s => asStrictObject s

namespace Record

/-- All that is written for a field of a name, which has a position in the declaration too. -/
def found : Record → Nat → String → Decoded (List Source)
  | .named once fields, _, name =>
    let written := (fields.filter fun e => e.1 = name).map (·.2)
    if once ∧ 1 < written.length then .error .mismatch else .ok written
  | .listed items, position, _ => .ok items[position]?.toList

/-- A field, if it is there. -/
def field? (r : Record) (position : Nat) (name : String) (read : Source → Decoded α) :
    Decoded (Option α) := do
  let written ← r.found position name
  let values ← written.mapM read
  .ok values.getLast?

/-- A field that must be there. -/
def required (r : Record) (position : Nat) (name : String) (read : Source → Decoded α) :
    Decoded α := do
  match ← r.field? position name read with
  | some a => .ok a
  | none => .error (.missingField name)

/-- A field with a value of its own when it is absent. -/
def orElse (r : Record) (position : Nat) (name : String) (fallback : α)
    (read : Source → Decoded α) : Decoded α := do
  let found ← r.field? position name read
  .ok (found.getD fallback)

/-- A field that may be absent or null. -/
def optional (r : Record) (position : Nat) (name : String) (read : Source → Decoded α) :
    Decoded (Option α) :=
  r.orElse position name none (asOptional read)

/-- A field whose absence and null both read as a value of its own. -/
def nullable (r : Record) (position : Nat) (name : String) (fallback : α)
    (read : Source → Decoded α) : Decoded α :=
  (·.getD fallback) <$> r.optional position name read

/-- The fields besides some known ones, which all must stand for values. -/
def others (r : Record) (known : List String) : Decoded Json :=
  match r with
  | .named _ fields => asValue (.obj (fields.filter fun e => !known.contains e.1))
  | .listed _ => .error .mismatch

end Record

end ControlPlane.Json
