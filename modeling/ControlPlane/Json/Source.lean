/-
JSON as a text writes it.

A text may write what no value holds: several fields of one name, half of a surrogate
pair, a number beyond every floating-point number, or arrays and objects nested without
end.  None of this is a fault of its form.  It is a fault for the one who asks for the
value, and none for a reader that passes over it.

So a source keeps the fields of an object in their order, and a part that is well formed
but stands for no value is marked as `beyond`.  `value?` is the strict reading, which
takes the last field of a name and refuses every part that is beyond.
-/
import ControlPlane.Json

namespace ControlPlane.Json

inductive Source where
  | null
  | bool (value : Bool)
  | int (value : Int)
  | decimal (negative : Bool) (digits : Nat) (exponent : Int)
  | str (value : String)
  | arr (items : List Source)
  | obj (fields : List (String × Source))
  /-- A part that stands for no value. -/
  | beyond
deriving Inhabited, Repr

namespace Source

mutual

/-- The value that a source stands for. -/
def value? : Source → Option Json
  | .null => some .null
  | .bool b => some (.bool b)
  | .int n => some (.int n)
  | .decimal negative digits exponent => some (.decimal negative digits exponent)
  | .str s => some (.str s)
  | .arr items => (values? items).map .arr
  | .obj fields => (fieldValues? fields).map object
  | .beyond => none

/-- The values of some items. -/
def values? : List Source → Option (List Json)
  | [] => some []
  | s :: rest =>
    match value? s, values? rest with
    | some j, some js => some (j :: js)
    | _, _ => none

/-- The values of some fields. -/
def fieldValues? : List (String × Source) → Option (List (String × Json))
  | [] => some []
  | (name, s) :: rest =>
    match value? s, fieldValues? rest with
    | some j, some js => some ((name, j) :: js)
    | _, _ => none

end

mutual

/-- A value as a source. -/
def ofJson : Json → Source
  | .null => .null
  | .bool b => .bool b
  | .int n => .int n
  | .decimal negative digits exponent => .decimal negative digits exponent
  | .str s => .str s
  | .arr items => .arr (ofItems items)
  | .obj fields => .obj (ofFields fields)

def ofItems : List Json → List Source
  | [] => []
  | j :: rest => ofJson j :: ofItems rest

def ofFields : List (String × Json) → List (String × Source)
  | [] => []
  | (name, j) :: rest => (name, ofJson j) :: ofFields rest

end

end Source

end ControlPlane.Json
