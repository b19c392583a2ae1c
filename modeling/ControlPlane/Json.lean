/-
JSON values.

Objects are read and written by many hands here: the resource and its status, the
objects of the cluster API, the published schema.  A value keeps the fields of an
object in a list; every writer of this library lists them in rising order of their
names, so that equal objects are equal values, and `object` puts fields of unknown
order into that form.

A number is a whole number of 64 bits or a decimal `digits * 10 ^ exponent` with a sign,
the shortest one of a floating-point number.  No type of the library is read from a
decimal, so decimals only have to be carried.
-/
import ControlPlane.Table

namespace ControlPlane

inductive Json where
  | null
  | bool (value : Bool)
  | int (value : Int)
  | decimal (negative : Bool) (digits : Nat) (exponent : Int)
  | str (value : String)
  | arr (items : List Json)
  | obj (fields : List (String × Json))
deriving Inhabited, Repr, BEq

namespace Json

/-- An object from fields in any order; the last field of a name stays. -/
def object (fields : List (String × Json)) : Json :=
  .obj (Table.ofList fields).entries

/-- An object from fields that may be left out. -/
def objectOf (fields : List (Option (String × Json))) : Json :=
  .obj (fields.filterMap id)

/-- A field that is always written. -/
def field (name : String) (value : Json) : Option (String × Json) := some (name, value)

/-- A field that is written when it is set. -/
def fieldIfSet (name : String) (write : α → Json) (value : Option α) : Option (String × Json) :=
  value.map fun v => (name, write v)

/-- The fields of an object. -/
def fields? : Json → Option (List (String × Json))
  | .obj fields => some fields
  | _ => none

/-- A field of an object. -/
def get? (name : String) : Json → Option Json
  | .obj fields => Table.lookup name fields
  | _ => none

/-- The value behind a path of field names and item numbers. -/
def follow : Json → List String → Option Json
  | j, [] => some j
  | .obj fields, name :: rest =>
    match Table.lookup name fields with
    | some j => follow j rest
    | none => none
  | .arr items, index :: rest =>
    match itemNumber index.toList with
    | some i =>
      match items[i]? with
      | some j => follow j rest
      | none => none
    | none => none
  | _, _ => none
where
  /-- The number of an item, written without a sign and without leading zeros. -/
  itemNumber : List Char → Option Nat
    | ['0'] => some 0
    | '0' :: _ => none
    | [] => none
    | cs => cs.foldlM (fun n c =>
        if '0' ≤ c ∧ c ≤ '9' then some (n * 10 + (c.toNat - '0'.toNat)) else none) 0

/-- The steps of a pointer such as `/spec/names/0`, where `~1` is a slash and `~0` a tilde. -/
def pointerSteps? (pointer : String) : Option (List String) :=
  match pointer.toList with
  | [] => some []
  | '/' :: rest => some ((splitSlash rest).map (String.ofList ∘ unescape))
  | _ => none
where
  /-- The parts between slashes. -/
  splitSlash : List Char → List (List Char)
    | [] => [[]]
    | c :: rest =>
      match splitSlash rest with
      | [] => [[c]]
      | part :: parts => if c = '/' then [] :: part :: parts else (c :: part) :: parts
  /-- A step with its two escapes resolved. -/
  unescape : List Char → List Char
    | '~' :: '1' :: rest => '/' :: unescape rest
    | '~' :: '0' :: rest => '~' :: unescape rest
    | c :: rest => c :: unescape rest
    | [] => []

/-- The part of a value that a pointer names. -/
def pointer? (j : Json) (pointer : String) : Option Json :=
  (pointerSteps? pointer).bind (follow j)

end Json

end ControlPlane
