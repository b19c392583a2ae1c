/-
Schemas: the published form of a type.
-/
import ControlPlane.Crd.Pattern
import ControlPlane.Json

namespace ControlPlane.Crd

open Json

/-- What is said of a value besides its shape. -/
structure Notes where
  title : Option String := none
  description : Option String := none
  nullable : Bool := false
  /-- What an absent value stands for. -/
  fallback : Option Json := none
  /-- Rules on an update, each with what a refused one is told. -/
  rules : List (String × String) := []

/-- The texts that a field takes. -/
structure TextLimits where
  format : Option String := none
  most : Option Nat := none
  pattern : Option Pattern := none

inductive Schema where
  | text (notes : Notes) (limits : TextLimits)
  | whole (notes : Notes) (format : String)
  | truth (notes : Notes)
  /-- An object of any fields. -/
  | table (notes : Notes) (values : Schema)
  /-- A list, whose items may be told apart by some of their fields. -/
  | list (notes : Notes) (items : Schema) (keys : List String)
  /-- An object of given fields in rising order, some of which are required. -/
  | record (notes : Notes) (fields : List (String × Schema)) (required : List String)

namespace Schema

/-- The notes as fields. -/
def notesFields (n : Notes) : List (Option (String × Json)) :=
  [fieldIfSet "title" .str n.title, fieldIfSet "description" .str n.description,
    if n.nullable then field "nullable" (.bool true) else none,
    fieldIfSet "default" id n.fallback,
    if n.rules.isEmpty then none
    else field "x-kubernetes-validations" <| .arr <| n.rules.map fun r =>
      objectOf [field "message" (.str r.2), field "rule" (.str r.1)]]

/-- A schema of some notes, a type and what belongs to that type. -/
def written (n : Notes) (type : String) (more : List (Option (String × Json))) : Json :=
  object ((notesFields n ++ field "type" (.str type) :: more).filterMap id)

mutual

def encode : Schema → Json
  | .text n limits => written n "string"
    [fieldIfSet "format" .str limits.format, fieldIfSet "maxLength" (fun m => .int m) limits.most,
      fieldIfSet "pattern" (fun p => .str p.text) limits.pattern]
  | .whole n format => written n "integer" [field "format" (.str format)]
  | .truth n => written n "boolean" []
  | .table n values => written n "object" [field "additionalProperties" values.encode]
  | .list n items keys => written n "array" <|
    field "items" items.encode ::
      if keys.isEmpty then []
      else [field "x-kubernetes-list-map-keys" (.arr (keys.map .str)),
        field "x-kubernetes-list-type" (.str "map")]
  | .record n fields required => written n "object"
    [field "properties" (.obj (encodeFields fields)),
      if required.isEmpty then none else field "required" (.arr (required.map .str))]

def encodeFields : List (String × Schema) → List (String × Json)
  | [] => []
  | (name, s) :: rest => (name, s.encode) :: encodeFields rest

end

end Schema

end ControlPlane.Crd
