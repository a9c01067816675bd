import Faceted.Json.Node

/-!
# Facet selections

A visitor selects values for facets. A facet's selection is one value, several values that must all
hold, or several of which any may hold. As JSON these are a string, an array of strings, and an
object whose member `or` is a string or an array of strings.

## Main definitions

* `Selection` — what is selected for one facet
* `Selections` — what is selected, by facet
* `Selection.ofJson?`, `Selection.toJson` — the JSON form
* `Selection.ofNode?` — the JSON form in a text, where a repeated `or` is refused
* `Selections.ofJson?`, `Selections.ofText?` — the selections of all facets
-/

namespace Faceted

/-- What is selected for one facet. -/
inductive Selection where
  /-- This value must match. -/
  | exact (value : String)
  /-- Every value must match. -/
  | allOf (values : List String)
  /-- A disjunctive selection. -/
  | anyOf (values : List String)
deriving DecidableEq, Repr

namespace Selection

/-- The selected values, whatever the operator. -/
def values : Selection → List String
  | .exact value => [value]
  | .allOf values => values
  | .anyOf values => values

/-- Reads the value of a member `or`: as one string, or else as an array of strings. -/
def oneOrMany? (value : Json) : Option (List String) :=
  (value.text?.map fun string => [string]) <|> value.texts?

/-- Reads a selection: as a string, or else as an array of strings, or else as an object with a
member `or`. Its other members are ignored. -/
def ofJson? (value : Json) : Option Selection :=
  value.text?.map .exact <|> value.texts?.map .allOf
    <|> ((value.member? "or").bind oneOrMany?).map .anyOf

/-- Writes a selection. -/
def toJson : Selection → Json
  | .exact value => .text value
  | .allOf values => .texts values
  | .anyOf values => .object [("or", .texts values)]

/-- Reads a selection in a text of at most `levels` levels. A repeated `or` is refused, other
repeated members are not. -/
def ofNode? (levels : Nat) (node : Json.Node) : Option Selection :=
  if 1 < node.occurrences "or" then none else (node.value? levels).bind ofJson?

end Selection

/-- What is selected, by facet. -/
abbrev Selections := Entries Selection

namespace Selections

/-- Selects for one facet, in place of what was selected for it before. -/
def select (selections : Selections) (facet : String) (selection : Selection) : Selections :=
  Entries.put selections facet selection

/-- Reads named selections; one that cannot be read spoils all. -/
def ofMembers? (members : List (String × Json)) : Option Selections :=
  (members.mapM fun member => (Selection.ofJson? member.2).map (member.1, ·)).map Entries.ofPairs

/-- Reads the selections of all facets. -/
def ofJson? (value : Json) : Option Selections :=
  value.members?.bind ofMembers?

/-- Reads the selections of all facets from a text. Of a repeated facet the last selection counts,
but all must be readable. -/
def ofText? (text : String) : Option Selections :=
  match Json.Node.ofText? text with
  | some (.object members) =>
    (members.mapM fun (member : Option String × Json.Node) => do
      let facet ← member.1
      let selection ← Selection.ofNode? (Json.greatestDepth - 1) member.2
      some (facet, selection)).map Entries.ofPairs
  | _ => none

end Selections

end Faceted
