import Faceted.Json.Overlay
import Faceted.Query.Clause

/-!
# Queries

A query is what a search compiles to: a clause for the text, clauses for the facets, and the
aggregations that count what the facets offer. It is written as a document that the search engine
understands; fragments from outside are laid over that document.

## Main definitions

* `WeightedField` — a field and how much it counts
* `FullText` — the clause for the text
* `Aggregation` — a count of the values of one field
* `Query` — a compiled search
* `Query.document` — the query as it is sent
* `Query.hasCondition`, `Query.isEmpty` — whether there is anything to match, and anything to send
* `Query.aggregationNames` — the aggregations that an answer is read for
-/

namespace Faceted

/-- A field and how much it counts. -/
structure WeightedField where
  name : String
  weight : Float
deriving DecidableEq

/-- A weighted field as it is listed in a query. -/
def WeightedField.text (field : WeightedField) : String :=
  field.name ++ "^" ++ Decimal.Layout.weight.text field.weight

/-- The clause that matches and scores the text. -/
structure FullText where
  fields : List String
  query : String
  fuzziness : Option Json

/-- A text clause in a query. -/
def FullText.toJson (clause : FullText) : Json :=
  .object [("query_string", .object
    ([("fields", .texts clause.fields), ("query", .text clause.query)]
      ++ (clause.fuzziness.map fun value => ("fuzziness", value)).toList))]

/-- A count of the values of one field. -/
structure Aggregation where
  name : String
  field : String
deriving DecidableEq

/-- An aggregation in a query. -/
def Aggregation.toJson (aggregation : Aggregation) : Json :=
  .object [("terms", .object [("field", .text aggregation.field)])]

/-- A compiled search. -/
structure Query where
  fullText : Option FullText := none
  required : List Clause := []
  groups : List ClauseGroup := []
  scored : List WeightedField := []
  aggregations : List Aggregation := []
  highlight : Bool := false
  /-- A fragment that is laid over the document. -/
  extensions : Entries Json := []

namespace Query

/-- The conditions that every match meets: the text, then the required facets. -/
def mustJson (query : Query) : List Json :=
  query.fullText.toList.map FullText.toJson ++ query.required.map Clause.toJson

/-- The groups of disjunctive selections. -/
def filterJson (query : Query) : List Json :=
  query.groups.map ClauseGroup.toJson

/-- A list under a name; an empty list is left out. -/
def listed (name : String) (items : List Json) : Entries Json :=
  if items.isEmpty then [] else [(name, .array items)]

/-- What documents are matched against, if anything. -/
def conditionJson? (query : Query) : Option Json :=
  if query.mustJson.isEmpty && query.filterJson.isEmpty then none
  else
    some (.object
      [("bool", .object (listed "must" query.mustJson ++ listed "filter" query.filterJson))])

/-- The aggregations by name. Of two with one name the last counts, in the place of the first. -/
def aggregationsJson (query : Query) : Entries Json :=
  Entries.ofPairs (query.aggregations.map fun aggregation => (aggregation.name, aggregation.toJson))

/-- Asks for fragments of the text that matched, in every field. -/
def highlightJson : Json :=
  .object [("fields", .object [("*", .object [("type", .text "plain")])])]

/-- The sections of a query, without its extensions. -/
def sections (query : Query) : Entries Json :=
  (query.conditionJson?.map fun condition => ("query", condition)).toList
    ++ (if query.aggregations.isEmpty then [] else [("aggs", .object query.aggregationsJson)])
    ++ (if query.highlight then [("highlight", highlightJson)] else [])

/-- The query as it is sent: its sections, with the extensions laid over them. -/
def document (query : Query) : Entries Json :=
  Json.overlay query.sections query.extensions

/-- Whether there is something to match documents against. -/
def hasCondition (query : Query) : Bool :=
  query.fullText.isSome || !query.required.isEmpty || !query.groups.isEmpty
    || Entries.has query.extensions "query"

/-- Whether the query is not worth sending. Aggregations are part of every query, so that only those
of the extensions make it worth sending. -/
def isEmpty (query : Query) : Bool :=
  !query.hasCondition && !Entries.has query.extensions "aggs"

/-- The names of the aggregations in the extensions. -/
def extensionAggregations (query : Query) : List String :=
  match Entries.get? query.extensions "aggs" with
  | some (.object members) => Entries.keys members
  | _ => []

/-- The aggregations that an answer is read for: those of the query, then those that only the
extensions name. -/
def aggregationNames (query : Query) : List String :=
  query.extensionAggregations.foldl
    (fun names name => if names.contains name then names else names ++ [name])
    (query.aggregations.map Aggregation.name)

end Query

end Faceted
