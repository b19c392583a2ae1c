/-
Label selectors.

A `LabelSelector` is what the resource says: labels that must be there, and
requirements on further labels.  A `Selector` is what it means: a list of expressions
that must all hold.  Not every label selector has a meaning, since a requirement may
name an unknown operator or lack its values; the first such requirement is the one
reported.
-/
import ControlPlane.Json.Decode

namespace ControlPlane

open Json

/-- Labels or annotations of an object. -/
abbrev Labels := Table String String

/-- A requirement on one label, as it is written. -/
structure Requirement where
  key : String
  operator : String
  values : Option (List String)
deriving DecidableEq, Repr, Inhabited

/-- A selector as it is written. -/
structure LabelSelector where
  matchLabels : Option Labels
  matchExpressions : Option (List Requirement)
deriving DecidableEq, Inhabited

/-- A condition on the labels of an object. -/
inductive Expression where
  | equal (key value : String)
  | isIn (key : String) (values : List String)
  | notIn (key : String) (values : List String)
  | present (key : String)
  | absent (key : String)
deriving DecidableEq, Repr

/-- Conditions on the labels of an object, all of which must hold. -/
structure Selector where
  expressions : List Expression
deriving DecidableEq, Repr, Inhabited

/-- Why a label selector has no meaning. -/
inductive SelectorError where
  | noValues
  | unknownOperator
deriving DecidableEq, Repr

def SelectorError.message : SelectorError → String
  | .noValues => "Expected values for In operator, got none"
  | .unknownOperator => "Invalid expression operator"

/-- A list as a set: each text once, in rising order. -/
def sortedSet (l : List String) : List String :=
  (Table.ofList (l.map fun s => (s, ()))).keys

namespace Requirement

/-- The condition that a requirement stands for. -/
def expression (r : Requirement) : Except SelectorError Expression :=
  if r.operator = "In" then
    match r.values with
    | some values => .ok (.isIn r.key (sortedSet values))
    | none => .error .noValues
  else if r.operator = "NotIn" then
    match r.values with
    | some values => .ok (.notIn r.key (sortedSet values))
    | none => .error .noValues
  else if r.operator = "Exists" then .ok (.present r.key)
  else if r.operator = "DoesNotExist" then .ok (.absent r.key)
  else .error .unknownOperator

def encode (r : Requirement) : Json :=
  objectOf [field "key" (.str r.key), field "operator" (.str r.operator),
    fieldIfSet "values" ofTextList r.values]

def decode (s : Source) : Decoded Requirement := do
  let r ← asObject s
  let key ← r.nullable 0 "key" "" asString
  let operator ← r.nullable 1 "operator" "" asString
  let values ← r.optional 2 "values" (asList asString)
  .ok { key, operator, values }

end Requirement

namespace LabelSelector

/-- The meaning of a selector: its labels in key order, then its requirements. -/
def selector (s : LabelSelector) : Except SelectorError Selector := do
  let labels := (s.matchLabels.getD .empty).entries.map fun e => Expression.equal e.1 e.2
  let requirements ← (s.matchExpressions.getD []).mapM Requirement.expression
  .ok ⟨labels ++ requirements⟩

def encode (s : LabelSelector) : Json :=
  objectOf [fieldIfSet "matchExpressions" (fun l => .arr (l.map Requirement.encode)) s.matchExpressions,
    fieldIfSet "matchLabels" ofTexts s.matchLabels]

def decode (s : Source) : Decoded LabelSelector := do
  let r ← asObject s
  let matchLabels ← r.optional 0 "matchLabels" (asTable asString)
  let matchExpressions ← r.optional 1 "matchExpressions" (asList Requirement.decode)
  .ok { matchLabels, matchExpressions }

end LabelSelector

namespace Expression

/-- The condition holds of some labels. -/
def holds (labels : Labels) : Expression → Bool
  | .equal key value => labels.get? key = some value
  | .isIn key values =>
    match labels.get? key with
    | some value => values.contains value
    | none => false
  | .notIn key values =>
    match labels.get? key with
    | some value => !values.contains value
    | none => true
  | .present key => labels.contains key
  | .absent key => !labels.contains key

/-- The condition in a label query. -/
def text : Expression → String
  | .equal key value => key ++ "=" ++ value
  | .isIn key values => key ++ " in (" ++ ",".intercalate values ++ ")"
  | .notIn key values => key ++ " notin (" ++ ",".intercalate values ++ ")"
  | .present key => key
  | .absent key => "!" ++ key

end Expression

namespace Selector

/-- All conditions hold of some labels. -/
def holds (s : Selector) (labels : Labels) : Bool := s.expressions.all (Expression.holds labels)

/-- The selector excludes nothing. -/
def selectsAll (s : Selector) : Bool := s.expressions.isEmpty

/-- The label query. -/
def text (s : Selector) : String := ",".intercalate (s.expressions.map Expression.text)

end Selector

end ControlPlane
