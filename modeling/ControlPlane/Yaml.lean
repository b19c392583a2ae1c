/-
YAML in block style.

A field is written on a line of its own.  What belongs to it stands below it, two columns
further in, but the items of a list begin in the column of the field.  A text with
several lines is written line by line under a bar.  Every other text is written as it is,
so this printer is for texts that need no quotes.
-/
import ControlPlane.Json
import ControlPlane.Json.Compact

namespace ControlPlane.Yaml

open Json

/-- The lines of a text. -/
def splitLines : List Char → List (List Char)
  | [] => [[]]
  | c :: rest =>
    match splitLines rest with
    | [] => [[c]]
    | line :: lines => if c = '\n' then [] :: line :: lines else (c :: line) :: lines

/-- Lines two columns further in; empty lines stay empty. -/
def indent (lines : List String) : List String :=
  lines.map fun line => if line.isEmpty then line else "  " ++ line

/-- Lines of an item, whose first line has the dash. -/
def item : List String → List String
  | [] => ["-"]
  | first :: rest => ("- " ++ first) :: indent rest

/-- How a value stands behind its field. -/
inductive Placed where
  /-- On the line of the field. -/
  | inline (text : String)
  /-- Below the field, in its column. -/
  | below (lines : List String)
  /-- Below the field, further in. -/
  | inside (lines : List String)
  /-- Line by line under a bar. -/
  | under (lines : List String)

namespace Placed

/-- A field with its value. -/
def field (name : String) : Placed → List String
  | .inline text => [name ++ ": " ++ text]
  | .below lines => (name ++ ":") :: lines
  | .inside lines => (name ++ ":") :: indent lines
  | .under lines => (name ++ ": |-") :: indent lines

/-- A value by itself. -/
def lines : Placed → List String
  | .inline text => [text]
  | .below lines | .inside lines => lines
  | .under lines => "|-" :: indent lines

end Placed

mutual

def place : Json → Placed
  | .str s =>
    match splitLines s.toList with
    | [line] => .inline (String.ofList line)
    | lines => .under (lines.map String.ofList)
  | .arr [] => .inline "[]"
  | .arr items => .below (itemLines items)
  | .obj [] => .inline "\x7b\x7d"
  | .obj fields => .inside (fieldLines fields)
  | j => .inline j.render

def itemLines : List Json → List String
  | [] => []
  | j :: rest => item (place j).lines ++ itemLines rest

def fieldLines : List (String × Json) → List String
  | [] => []
  | (name, j) :: rest => (place j).field name ++ fieldLines rest

end

/-- The lines of a document. -/
def lines (j : Json) : List String := (place j).lines

/-- A document. -/
def document (j : Json) : String := String.join ((lines j).map (· ++ "\n"))

end ControlPlane.Yaml
