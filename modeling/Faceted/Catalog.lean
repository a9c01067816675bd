import Faceted.Json.Basic

/-!
# The catalog of searchable fields

A catalog says which names can be searched and filtered on, how much each counts, and which named
ranges a numeric field offers. Compiling a search needs only the view of a catalog; the table is one
way to hold it, as settings give it.

## Main definitions

* `FieldKind` — which part of the catalog a name is listed in
* `NumericRange` — a range of numbers, and the predicate it stands for
* `Catalog` — what a search asks of a catalog
* `CatalogTable` — a catalog held in tables, and the operations that build one
* `CatalogTable.toCatalog` — the view of a table
* `Catalog.plain` — a view of which only the listings are kept, always enabled and without levels
-/

namespace Faceted

/-- Which part of the catalog a name is listed in. Weights are kept by kind. -/
inductive FieldKind where
  | taxonomy
  | field
  | metaField
  | customFacet
deriving DecidableEq, Repr

namespace FieldKind

/-- The kind that settings call by this name. -/
def ofName? : String → Option FieldKind
  | "tax" => some .taxonomy
  | "field" => some .field
  | "meta" => some .metaField
  | "custom" => some .customFacet
  | _ => none

/-- What settings call the kind. -/
def name : FieldKind → String
  | .taxonomy => "tax"
  | .field => "field"
  | .metaField => "meta"
  | .customFacet => "custom"

/-- All kinds. -/
def all : List FieldKind := [.taxonomy, .field, .metaField, .customFacet]

@[simp] theorem ofName?_name (kind : FieldKind) : ofName? kind.name = some kind := by
  cases kind <;> rfl

end FieldKind

/-- A range of numbers: from `least` on, and below `below`. -/
structure NumericRange where
  least : Option Number
  below : Option Number
deriving DecidableEq

namespace NumericRange

/-- The predicate of a range: `gte` for the lower bound and `lt` for the upper; a bound that
is absent is left out. -/
def predicate (range : NumericRange) : Json :=
  .object ((range.least.map fun n => ("gte", Json.number n)).toList
    ++ (range.below.map fun n => ("lt", Json.number n)).toList)

end NumericRange

/-- What a search asks of a catalog. -/
structure Catalog where
  /-- Indexed fields, in the order in which they are scored. -/
  fields : List String
  metaFields : List String
  taxonomies : List String
  customFacets : List String
  /-- The weight of a name; zero means that it is not scored, except for a taxonomy, where it stands
  for one. -/
  weight : FieldKind → String → Float
  isNumeric : String → Bool
  /-- Whether a field is indexed without an analyzer, and therefore scored under its own name. -/
  isNotAnalyzed : String → Bool
  /-- How fuzzily a text that asks for it is matched. -/
  fuzziness : Option Json
  /-- The named ranges of a numeric field, in the order in which they are shown. -/
  ranges : String → List (String × NumericRange)
  enabled : Bool := true
  /-- The levels by which the type of a document raises its score. -/
  relevance : List Nat := []

namespace Catalog

/-- The same listings with search always enabled and without levels of relevance. -/
def plain (catalog : Catalog) : Catalog :=
  { catalog with enabled := true, relevance := [] }

end Catalog

/-- A catalog held in tables. -/
structure CatalogTable where
  enabled : Bool := true
  fields : List String := []
  metaFields : List String := []
  taxonomies : List String := []
  customFacets : List String := []
  weights : FieldKind → Entries Float := fun _ => []
  numeric : List String := []
  notAnalyzed : List String := []
  fuzziness : Option Json := none
  ranges : Entries (List (String × NumericRange)) := []
  relevance : List Nat := []

namespace CatalogTable

/-- The view of a table. A name without an entry has weight zero and no ranges. -/
def toCatalog (table : CatalogTable) : Catalog :=
  { fields := table.fields
    metaFields := table.metaFields
    taxonomies := table.taxonomies
    customFacets := table.customFacets
    weight := fun kind name => (Entries.get? (table.weights kind) name).getD 0.0
    isNumeric := table.numeric.contains
    isNotAnalyzed := table.notAnalyzed.contains
    fuzziness := table.fuzziness
    ranges := fun name => (Entries.get? table.ranges name).getD []
    enabled := table.enabled
    relevance := table.relevance }

/-- Gives a name the weight of its kind. -/
def setWeight (table : CatalogTable) (kind : FieldKind) (name : String) (weight : Float) :
    CatalogTable :=
  { table with
    weights := fun other =>
      if other = kind then Entries.put (table.weights kind) name weight else table.weights other }

/-- Gives a field its named ranges, which makes it numeric. -/
def setRanges (table : CatalogTable) (field : String) (ranges : List (String × NumericRange)) :
    CatalogTable :=
  { table with
    numeric := table.numeric ++ [field]
    ranges := Entries.put table.ranges field ranges }

/-- Marks a field as indexed without an analyzer. -/
def markNotAnalyzed (table : CatalogTable) (field : String) : CatalogTable :=
  { table with notAnalyzed := table.notAnalyzed ++ [field] }

end CatalogTable

end Faceted
