import Faceted.Search.Hooks
import Faceted.Text.Operators

/-!
# Compiling a search

The text and the facet selections of a search become a query, as the catalog allows. The text is
matched against the scored fields of the catalog; the selections are turned into clauses pass by
pass: taxonomies first, then the fields, meta fields and custom facets that are not excluded,
and last the type of documents. A query depends on nothing else, so the same search always
compiles to the same query.

## Main definitions

* `Compile.listings` — the names of the catalog that are not excluded, with their kinds
* `Compile.passes` — the names on which selections are turned into clauses
* `Compile.scored` — the fields that a text is matched against
* `Compile.fullTextDraft`, `Compile.draft` — what the hooks are given
* `compile` — the query
-/

namespace Faceted

namespace Compile

/-- The language of scored fields, unless a hook says otherwise. -/
def defaultLanguage : String := "english"

/-- The fields that are neither scored nor filtered on, unless a hook says otherwise. -/
def defaultExcluded : List String := ["post_date"]

/-- The field with the type of a document. -/
def documentTypeField : String := "post_type"

/-- The fields, meta fields and custom facets that are not excluded, in catalog order. -/
def listings (catalog : Catalog) (excluded : List String) : List (FieldKind × String) :=
  ((catalog.fields.map (FieldKind.field, ·)) ++ (catalog.metaFields.map (FieldKind.metaField, ·))
    ++ (catalog.customFacets.map (FieldKind.customFacet, ·))).filter
    fun entry => !excluded.contains entry.2

/-! ### Facets -/

/-- The named ranges that can be selected for a field; none unless it is numeric. -/
def selectableRanges (catalog : Catalog) (name : String) : List (String × NumericRange) :=
  if catalog.isNumeric name then catalog.ranges name else []

/-- The pass on a listed name: by ranges if it has any to select, by terms if it is a custom facet.
Of ranges under one label the last counts. -/
def pass? (catalog : Catalog) (entry : FieldKind × String) : Option Pass :=
  match selectableRanges catalog entry.2 with
  | [] => if entry.1 = .customFacet then some { name := entry.2, kind := .term } else none
  | range :: ranges =>
    some
      { name := entry.2
        kind := .range
        predicates := Entries.ofPairs ((range :: ranges).map fun r => (r.1, r.2.predicate)) }

/-- The pass on the type of documents, if that is a field of the catalog. -/
def documentTypePass (catalog : Catalog) : List Pass :=
  if catalog.fields.contains documentTypeField then [{ name := documentTypeField, kind := .term }]
  else []

/-- The passes of a catalog, in order. -/
def passes (catalog : Catalog) (excluded : List String) : List Pass :=
  catalog.taxonomies.map (fun name => { name := name, kind := .term })
    ++ (listings catalog excluded).filterMap (pass? catalog)
    ++ documentTypePass catalog

/-- The clauses that all passes give rise to. -/
def facetClauses (catalog : Catalog) (excluded : List String) (selections : Selections) :
    FacetClauses :=
  FacetClauses.concat ((passes catalog excluded).map fun pass => pass.clauses selections)

/-! ### Text -/

/-- The weight of a taxonomy; one if none is given. -/
def taxonomyWeight (catalog : Catalog) (name : String) : Float :=
  let weight := catalog.weight .taxonomy name
  if weight == 0.0 then 1.0 else weight

/-- The field with the names of a taxonomy's terms. -/
def taxonomyField (name : String) : String := name ++ "_name"

/-- How a taxonomy is scored, if it is. -/
def scoredTaxonomy? (catalog : Catalog) (name : String) : Option WeightedField :=
  if 0.0 < taxonomyWeight catalog name then some ⟨taxonomyField name, taxonomyWeight catalog name⟩
  else none

/-- How a listed name is scored, if it is: under its own name if the text is fuzzy or the field is
not analyzed, and otherwise as analyzed for the language. -/
def scoredListing? (catalog : Catalog) (language search : String) (entry : FieldKind × String) :
    Option WeightedField :=
  let weight := catalog.weight entry.1 entry.2
  if weight ≤ 0.0 then none
  else if Text.isFuzzy search || catalog.isNotAnalyzed entry.2 then some ⟨entry.2, weight⟩
  else some ⟨entry.2 ++ "." ++ language, weight⟩

/-- The fields that a text is matched against; an empty text is matched against none. -/
def scored (catalog : Catalog) (excluded : List String) (language search : String) :
    List WeightedField :=
  if search.isEmpty then []
  else
    catalog.taxonomies.filterMap (scoredTaxonomy? catalog)
      ++ (listings catalog excluded).filterMap (scoredListing? catalog language search)

/-- How much a level of relevance raises the score of a document. -/
def boostFactor (level : Nat) : Float := Decimal.doubleOfNat level / 2.0

/-- The term that raises documents of a level of relevance. -/
def boost (level : Nat) : String :=
  "(post_type_relevance:" ++ toString level ++ ")^" ++
    Decimal.Layout.weight.text (boostFactor level)

/-- The term that admits documents of no level. -/
def noBoost : String := "(post_type_relevance:0)"

/-- The text with a term for each level of relevance appended; unchanged if there are no levels. -/
def withRelevance (levels : List Nat) (search : String) : String :=
  if levels.isEmpty then search
  else search ++ " AND (" ++ " OR ".intercalate (levels.map boost ++ [noBoost]) ++ ")"

/-- The text clause before its hook: there is one if there is a text and something to match it
against. -/
def fullTextDraft (catalog : Catalog) (text search : String) (fields : List WeightedField) :
    Option FullText :=
  if search.isEmpty || fields.isEmpty then none
  else
    some
      { fields := fields.map WeightedField.text
        query := withRelevance catalog.relevance search
        fuzziness := if Text.isFuzzy text then catalog.fuzziness else none }

/-! ### The query -/

/-- The aggregations of every query: one counts the hits of each tenant, the others the
terms of each taxonomy. -/
def aggregations (catalog : Catalog) (tenant : TenantSettings) : List Aggregation :=
  ⟨tenant.aggregation, tenant.nameField⟩
    :: catalog.taxonomies.map fun name => ⟨name, taxonomyField name⟩

/-- The text clause that the hook is given, if there is one. -/
def hookedFullText (catalog : Catalog) (hooks : Hooks) (text : String) : Option FullText :=
  let search := Text.raiseOperators text
  let excluded := hooks.applyExcludedFields defaultExcluded
  let language := hooks.applyLanguage defaultLanguage
  fullTextDraft catalog text search (scored catalog excluded language search)

/-- The query without its fragment, as the fragment's hook is given it. -/
def draft (catalog : Catalog) (hooks : Hooks) (tenant : TenantSettings) (text : String)
    (selections : Selections) : Query :=
  let search := Text.raiseOperators text
  let excluded := hooks.applyExcludedFields defaultExcluded
  let language := hooks.applyLanguage defaultLanguage
  let clauses := facetClauses catalog excluded selections
  { fullText := (hookedFullText catalog hooks text).map hooks.applyFullText
    required := clauses.required
    groups := ClauseGroup.gather clauses.alternatives
    scored := scored catalog excluded language search
    aggregations := aggregations catalog tenant
    highlight := !text.isEmpty }

end Compile

/-- Compiles a text and facet selections. -/
def compile (catalog : Catalog) (hooks : Hooks) (tenant : TenantSettings) (text : String)
    (selections : Selections) : Query :=
  let query := Compile.draft catalog hooks tenant text selections
  { query with extensions := Json.overlay query.extensions (hooks.applyFragment query) }

/-! ### The parts of a query -/

section Parts

variable (catalog : Catalog) (hooks : Hooks) (tenant : TenantSettings) (text : String)
  (selections : Selections)

theorem compile_scored :
    (compile catalog hooks tenant text selections).scored =
      Compile.scored catalog (hooks.applyExcludedFields Compile.defaultExcluded)
        (hooks.applyLanguage Compile.defaultLanguage) (Text.raiseOperators text) := by
  simp only [compile, Compile.draft]

theorem compile_fullText :
    (compile catalog hooks tenant text selections).fullText =
      (Compile.fullTextDraft catalog text (Text.raiseOperators text)
        (compile catalog hooks tenant text selections).scored).map hooks.applyFullText := by
  simp only [compile, Compile.draft, Compile.hookedFullText]

theorem compile_highlight :
    (compile catalog hooks tenant text selections).highlight = !text.isEmpty := by
  simp only [compile, Compile.draft]

/-- Without its fragment, a query is what the hook of fragments is given. -/
theorem compile_without_extensions :
    { compile catalog hooks tenant text selections with extensions := [] } =
      Compile.draft catalog hooks tenant text selections := rfl

theorem compile_extensions :
    (compile catalog hooks tenant text selections).extensions =
      Json.overlay [] (hooks.applyFragment (Compile.draft catalog hooks tenant text selections)) :=
  rfl

end Parts

end Faceted
