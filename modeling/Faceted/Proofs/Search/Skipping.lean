import Faceted.Proofs.Query.Condition
import Faceted.Proofs.Query.Gathering
import Faceted.Proofs.Search.Aggregations
import Faceted.Proofs.Search.Course
import Faceted.Proofs.Search.Passes
import Faceted.Proofs.Text.Capitals

/-!
# Which searches are not worth sending

A search that asks for nothing is not sent. Whether it asks for anything is decided on the query,
while the body is written from the query section by section, leaving out what is empty and laying a
fragment over the rest. The two agree: a query has a condition exactly if its document has one, and
a search is skipped exactly if its text, its selections and its fragment ask for nothing.

## Main definitions

* `Compile.ScoresNothing` — a catalog has nothing to match a text against

## Main results

* `Query.query_mem_keys_document_iff` — a document has a condition exactly if its query has one
* `Compile.clauses_eq_nil_iff` — selections that give rise to no clause
* `compile_isEmpty_iff` — the searches that are skipped, and the bodies that are sent
-/

namespace Faceted

open Entries

/-! ### The condition of a query -/

namespace Query

variable (query : Query)

theorem hasCondition_iff :
    query.hasCondition = true ↔
      query.fullText ≠ none ∨ query.required ≠ [] ∨ query.groups ≠ [] ∨
        "query" ∈ keys query.extensions := by
  rw [hasCondition, Bool.or_eq_true, Bool.or_eq_true, Bool.or_eq_true, has_eq_true_iff,
    Option.isSome_iff_ne_none, Bool.not_eq_true', Bool.not_eq_true', List.isEmpty_eq_false_iff,
    List.isEmpty_eq_false_iff, or_assoc, or_assoc]

theorem isEmpty_iff :
    query.isEmpty = true ↔
      query.fullText = none ∧ query.required = [] ∧ query.groups = [] ∧
        "query" ∉ keys query.extensions ∧ "aggs" ∉ keys query.extensions := by
  rw [isEmpty, Bool.and_eq_true, Bool.not_eq_true', Bool.not_eq_true', ← Bool.not_eq_true,
    ← Bool.not_eq_true, hasCondition_iff, has_eq_true_iff]
  simp only [not_or, not_not, and_assoc]

/-- The sections have a condition exactly if there is a clause for it. -/
theorem conditionJson?_ne_none_iff :
    query.conditionJson? ≠ none ↔
      query.fullText ≠ none ∨ query.required ≠ [] ∨ query.groups ≠ [] := by
  have must : query.mustJson = [] ↔ query.fullText = none ∧ query.required = [] := by
    rw [mustJson, List.append_eq_nil_iff, List.map_eq_nil_iff, List.map_eq_nil_iff,
      Option.toList_eq_nil_iff]
  have filter : query.filterJson = [] ↔ query.groups = [] := List.map_eq_nil_iff
  -- A condition is left out if it has no clause in either of its lists.
  have omitted : query.conditionJson? = none ↔ query.mustJson = [] ∧ query.filterJson = [] := by
    rw [conditionJson?, ite_eq_left_iff, Bool.and_eq_true, List.isEmpty_iff, List.isEmpty_iff]
    simp
  rw [ne_eq, omitted, must, filter, not_and_or, not_and_or, or_assoc]

/-- A document has a condition exactly if its query has one. A fragment adds one if it names it,
with whatever value, and never takes one away. -/
theorem query_mem_keys_document_iff :
    "query" ∈ keys query.document ↔ query.hasCondition = true := by
  have sections : "query" ∈ keys query.sections ↔ query.conditionJson? ≠ none := by
    rw [← has_eq_true_iff, has, Condition.get?_sections_query, Option.isSome_iff_ne_none]
  rw [document, Json.mem_keys_overlay, sections, conditionJson?_ne_none_iff, hasCondition_iff,
    or_assoc, or_assoc]

/-- Paging neither adds nor takes away a condition. -/
theorem query_mem_keys_body_iff (settings : SearchSettings) (page : Page) :
    "query" ∈ keys (query.body settings page) ↔ query.hasCondition = true := by
  rw [← query_mem_keys_document_iff, ← has_eq_true_iff, ← has_eq_true_iff, has, has,
    get?_body_of_ne query settings page (by simp) (by simp) (by simp) (by simp)]

/-- A query is worth sending exactly if its body has a condition or its fragment asks for
aggregations. -/
theorem isEmpty_eq_false_iff (settings : SearchSettings) (page : Page) :
    query.isEmpty = false ↔
      "query" ∈ keys (query.body settings page) ∨ "aggs" ∈ keys query.extensions := by
  rw [query_mem_keys_body_iff, ← Bool.not_eq_true, isEmpty, Bool.and_eq_true, not_and_or,
    Bool.not_eq_true', Bool.not_eq_true', Bool.not_eq_false, Bool.not_eq_false, has_eq_true_iff]

end Query

/-! ### Compiling to nothing -/

namespace Compile

variable (catalog : Catalog) (excluded : List String)

/-- There is nothing to match a text against: no taxonomy counts, and no listed name has a weight
other than zero or less. -/
def ScoresNothing : Prop :=
  (∀ name ∈ catalog.taxonomies, ¬ 0.0 < taxonomyWeight catalog name) ∧
    ∀ entry ∈ listings catalog excluded, catalog.weight entry.1 entry.2 ≤ 0.0

theorem scored_eq_nil_iff (language search : String) :
    scored catalog excluded language search = [] ↔
      search = "" ∨ ScoresNothing catalog excluded := by
  have taxonomy (name : String) :
      scoredTaxonomy? catalog name = none ↔ ¬ 0.0 < taxonomyWeight catalog name := by
    rw [scoredTaxonomy?, ite_eq_right_iff]
    simp
  have listing (entry : FieldKind × String) :
      scoredListing? catalog language search entry = none ↔
        catalog.weight entry.1 entry.2 ≤ 0.0 := by
    rw [scoredListing?]
    split
    next h => simp [h]
    next h =>
      -- Analyzed or not, a field that counts is scored.
      split <;> simp [h]
  rw [scored]
  split
  next h => simp [String.isEmpty_iff.1 h]
  next h =>
    rw [List.append_eq_nil_iff, List.filterMap_eq_nil_iff, List.filterMap_eq_nil_iff,
      or_iff_right (mt String.isEmpty_iff.2 h), ScoresNothing]
    simp only [taxonomy, listing]

theorem fullTextDraft_eq_none_iff (text search : String) (fields : List WeightedField) :
    fullTextDraft catalog text search fields = none ↔ search = "" ∨ fields = [] := by
  rw [fullTextDraft]
  split
  next h => simpa using h
  next h => simpa using h

/-- Selections give rise to no clause exactly if nothing is selected under any name that counts,
which an empty list of values is as well. -/
theorem clauses_eq_nil_iff (selections : Selections) :
    (facetClauses catalog excluded selections).required = [] ∧
        ClauseGroup.gather (facetClauses catalog excluded selections).alternatives = [] ↔
      ∀ name, IsFacetName catalog excluded name →
        ∀ selection ∈ get? selections name, selection = .allOf [] ∨ selection = .anyOf [] := by
  have values (selection : Selection) :
      (∀ label ∈ selection.values, False) ↔ selection = .allOf [] ∨ selection = .anyOf [] := by
    cases selection <;> simp [Selection.values, List.eq_nil_iff_forall_not_mem]
  rw [ClauseGroup.gather_eq_nil_iff, List.eq_nil_iff_forall_not_mem, List.eq_nil_iff_forall_not_mem,
    facetClauses]
  -- That there is no clause is to say that whatever is gathered is impossible.
  calc _ ↔ ∀ pass ∈ passes catalog excluded, ∀ selection ∈ get? selections pass.name,
        ∀ label ∈ selection.values, False := by
        rw [← (Pass.forall_gathered_iff _ selections fun _ => False),
          ClauseGroup.forall_mem_gather_iff]
    _ ↔ _ := by
        simp only [values]
        exact forall_mem_passes_iff fun name =>
          ∀ selection ∈ get? selections name, selection = .allOf [] ∨ selection = .anyOf []

end Compile

/-! ### Sending -/

section Execute

variable (service : Service) (query : Query) (page : Page)

/-- The body of a query is sent if there is a page to fill and the query is worth sending, and
no other body ever is. -/
theorem Service.sent_mem_execute_iff (body : Json) :
    Event.sent body ∈ (service.execute query page).events ↔
      page.size ≠ 0 ∧ query.isEmpty = false ∧ body = service.requestBody query page := by
  rw [execute]
  split
  next hsize => simp [hsize]
  next hsize =>
    split
    next hempty => simp [hempty]
    next hempty =>
      -- Whether or not the backend answers, the body was sent before.
      dsimp only
      split <;> simp [hsize, hempty]

theorem Service.execute_skipped_iff :
    (service.execute query page).value = .ok .skipped ↔ page.size ≠ 0 ∧ query.isEmpty = true := by
  rw [execute]
  split
  next hsize => simp [hsize]
  next hsize =>
    split
    next hempty => simp [hsize, hempty]
    next hempty =>
      dsimp only
      split <;> simp [hempty]

end Execute

section Compile

variable (catalog : Catalog) (hooks : Hooks) (tenant : TenantSettings) (text : String)
  (selections : Selections)

theorem compile_fullText_eq_none_iff :
    (compile catalog hooks tenant text selections).fullText = none ↔
      text = "" ∨
        Compile.ScoresNothing catalog (hooks.applyExcludedFields Compile.defaultExcluded) := by
  rw [compile_fullText, compile_scored, Option.map_eq_none_iff, Compile.fullTextDraft_eq_none_iff,
    Compile.scored_eq_nil_iff, Text.raiseOperators_eq_empty_iff]
  simp

theorem compile_scored_eq_nil_iff :
    (compile catalog hooks tenant text selections).scored = [] ↔
      text = "" ∨
        Compile.ScoresNothing catalog (hooks.applyExcludedFields Compile.defaultExcluded) := by
  rw [compile_scored, Compile.scored_eq_nil_iff, Text.raiseOperators_eq_empty_iff]

theorem mem_keys_compile_extensions_iff (name : String) :
    name ∈ keys (compile catalog hooks tenant text selections).extensions ↔
      name ∈ keys (hooks.applyFragment (Compile.draft catalog hooks tenant text selections)) := by
  rw [compile_extensions, Json.mem_keys_overlay]
  exact or_iff_right List.not_mem_nil

end Compile

/-- Exactly the searches that ask for nothing are skipped. A search asks for nothing if its text has
nothing to be matched against, no value is selected under a name that counts, and the fragment
neither names a condition nor aggregations; what the fragment has under these names does not matter.
A query has a condition exactly if its document has one. So, unless a hook changes the body, every
body that is sent has a condition or aggregations of the fragment, and every body that would have is
sent if there is a page to fill. -/
theorem compile_isEmpty_iff (catalog : Catalog) (hooks : Hooks) (tenant : TenantSettings)
    (text : String) (selections : Selections) :
    let query := compile catalog hooks tenant text selections
    let excluded := hooks.applyExcludedFields Compile.defaultExcluded
    let fragment := hooks.applyFragment (Compile.draft catalog hooks tenant text selections)
    (query.isEmpty = true ↔
        (query.scored = [] ∨ text = "") ∧
          (∀ name, Compile.IsFacetName catalog excluded name →
            ∀ selection ∈ get? selections name, selection = .allOf [] ∨ selection = .anyOf []) ∧
          "query" ∉ keys fragment ∧ "aggs" ∉ keys fragment) ∧
      (query.scored = [] ↔ text = "" ∨ Compile.ScoresNothing catalog excluded) ∧
      (∀ query : Query, query.hasCondition = true ↔ "query" ∈ keys query.document) ∧
      ∀ (service : Service) (query : Query) (page : Page), service.hooks.requestBody = none →
        let body := query.body service.settings page
        let execution := service.execute query page
        (∀ sent, Event.sent sent ∈ execution.events →
            sent = .object body ∧ ("query" ∈ keys body ∨ "aggs" ∈ keys query.extensions)) ∧
          (execution.value = .ok .skipped →
            ¬ ("query" ∈ keys body ∨ "aggs" ∈ keys query.extensions)) ∧
          (page.size ≠ 0 → "query" ∈ keys body ∨ "aggs" ∈ keys query.extensions →
            Event.sent (.object body) ∈ execution.events) := by
  intro query excluded fragment
  refine ⟨?_, compile_scored_eq_nil_iff catalog hooks tenant text selections,
    fun query => query.query_mem_keys_document_iff.symm, fun service query page hbody => ?_⟩
  · have scored :
        query.scored = [] ∨ text = "" ↔ text = "" ∨ Compile.ScoresNothing catalog excluded := by
      rw [compile_scored_eq_nil_iff]
      exact or_iff_left_of_imp Or.inl
    have clauses := Compile.clauses_eq_nil_iff catalog excluded selections
    rw [query.isEmpty_iff, compile_fullText_eq_none_iff, mem_keys_compile_extensions_iff,
      mem_keys_compile_extensions_iff, scored, ← clauses, and_assoc]
    rfl
  · intro body execution
    have worth := query.isEmpty_eq_false_iff service.settings page
    have requested := Service.requestBody_of_no_hook hbody query page
    refine ⟨fun sent hsent => ?_, fun hskipped => ?_, fun hsize hworth => ?_⟩
    · obtain ⟨-, hempty, hsent⟩ := (service.sent_mem_execute_iff query page sent).1 hsent
      exact ⟨hsent.trans requested, worth.1 hempty⟩
    · rw [← worth, Bool.not_eq_false]
      exact ((service.execute_skipped_iff query page).1 hskipped).2
    · exact (service.sent_mem_execute_iff query page _).2 ⟨hsize, worth.2 hworth, requested.symm⟩

/-- Selecting none of several colors, and a size where sizes do not count, is skipped; a fragment
that names aggregations is sent, even with nothing under the name. -/
theorem compile_isEmpty_iff_colors :
    let catalog := ({ customFacets := ["color"] } : CatalogTable).toCatalog
    let service : Service :=
      { backend := fun _ => .error .timedOut
        catalog := catalog
        hooks := { fragment := some fun _ => [("aggs", .null)] } }
    let query := service.compile {}
    (compile catalog {} {} "" [("color", .anyOf []), ("size", .exact "xl")]).isEmpty = true ∧
      service.hooks.requestBody = none ∧ ({} : Page).size ≠ 0 ∧ "aggs" ∈ keys query.extensions ∧
      Event.sent (.object (query.body service.settings {})) ∈
        (service.execute query {}).events := by
  intro catalog service query
  have hsize : ({} : Page).size ≠ 0 := by simp
  have haggs : "aggs" ∈ keys query.extensions := by decide
  obtain ⟨hempty, -, -, hexecute⟩ :=
    compile_isEmpty_iff catalog {} {} "" [("color", .anyOf []), ("size", .exact "xl")]
  refine ⟨hempty.2 ⟨Or.inr rfl, fun name hname => ?_, List.not_mem_nil, List.not_mem_nil⟩, rfl,
    hsize, haggs, (hexecute service query {} rfl).2.2 hsize (Or.inr haggs)⟩
  obtain ⟨hcolor, -⟩ := Compile.isFacetName_customFacets_iff.1 hname
  obtain rfl := List.mem_singleton.1 hcolor
  rintro selection ⟨⟩
  exact Or.inr rfl

end Faceted
