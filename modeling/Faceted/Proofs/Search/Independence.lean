import Faceted.Proofs.Entries
import Faceted.Proofs.Search.Passes
import Faceted.Search.Run

/-!
# Selections that do not matter

A selection counts only under the name of a facet. Whatever else is selected, under excluded names,
under fields without ranges or under names that the catalog does not have, leaves a search as it is:
the query, the body that is sent, everything that is done on the way and the outcome. Nor does it
matter in which order facets are selected, since clauses come in the order of the catalog; of
several selections for one facet only the last counts.

## Main definitions

* `Selections.selectAll` — selections made one after the other
* `Selections.Agree` — the same is selected under some names

## Main results

* `agree_selectAll_of_perm`, `agree_selectAll_of_later` — selections that amount to the same
* `Compile.facetClauses_congr` — clauses are read off at the names of facets only
* `compile_congr`, `search_congr` — searches that agree on facets are the same search
* `unrecognized_selections_inert` — selections under other names, and their order, do not matter
-/

namespace Faceted

open Entries

namespace Selections

/-- Selections made one after the other, over what was selected before. -/
def selectAll (selections : Selections) (calls : List (String × Selection)) : Selections :=
  calls.foldl (fun selections call => selections.select call.1 call.2) selections

/-- The same is selected under these names. -/
def Agree (counts : String → Prop) (first second : Selections) : Prop :=
  ∀ name, counts name → get? first name = get? second name

variable {counts : String → Prop}

theorem get?_selectAll (selections : Selections) (calls : List (String × Selection))
    (name : String) :
    get? (selections.selectAll calls) name = (get? calls.reverse name).or (get? selections name) :=
  get?_foldl_put calls selections name

/-- Different facets may be selected in any order. -/
theorem agree_selectAll_of_perm (selections : Selections) {calls others : List (String × Selection)}
    (hnodup : (calls.map Prod.fst).Nodup) (hperm : calls.Perm others) :
    Agree counts (selections.selectAll calls) (selections.selectAll others) := by
  intro name _
  have hreverse : calls.reverse.Perm others.reverse :=
    (calls.reverse_perm.trans hperm).trans others.reverse_perm.symm
  have hkeys : (keys calls.reverse).Nodup := by
    rwa [keys, List.map_reverse, List.nodup_reverse]
  rw [get?_selectAll, get?_selectAll, get?_perm hreverse hkeys]

/-- A later selection for a facet replaces an earlier one, whatever is selected in between. -/
theorem agree_selectAll_of_later (selections : Selections)
    (before between after : List (String × Selection)) (facet : String)
    (earlier later : Selection) :
    Agree counts
      (selections.selectAll (before ++ (facet, earlier) :: between ++ (facet, later) :: after))
      (selections.selectAll (before ++ between ++ (facet, later) :: after)) := by
  intro name _
  rw [get?_selectAll, get?_selectAll]
  simp only [List.reverse_append, List.reverse_cons, get?_append]
  -- The facet itself is found with its later selection, and any other name not
  -- with the earlier one.
  by_cases h : facet = name
  · subst h
    simp [get?]
  · simp [get?, h]

end Selections

open Selections

/-! ### What a search reads of selections -/

/-- A pass reads the selections under its name only. -/
theorem Pass.clauses_congr {pass : Pass} {first second : Selections}
    (h : get? first pass.name = get? second pass.name) :
    pass.clauses first = pass.clauses second := by
  rw [clauses, clauses, h]

section Congr

variable {catalog : Catalog} {hooks : Hooks} {excluded : List String} {first second : Selections}

theorem Compile.facetClauses_congr (h : Agree (IsFacetName catalog excluded) first second) :
    facetClauses catalog excluded first = facetClauses catalog excluded second := by
  have passes : ∀ pass ∈ passes catalog excluded, get? first pass.name = get? second pass.name :=
    (forall_mem_passes_iff fun name => get? first name = get? second name).2 h
  rw [facetClauses, facetClauses]
  exact congrArg FacetClauses.concat
    (List.map_congr_left fun pass hpass => Pass.clauses_congr (passes pass hpass))

theorem Compile.draft_congr (tenant : TenantSettings) (text : String)
    (h : Agree (IsFacetName catalog (hooks.applyExcludedFields defaultExcluded)) first second) :
    draft catalog hooks tenant text first = draft catalog hooks tenant text second := by
  rw [draft, draft, facetClauses_congr h]

theorem compile_congr (tenant : TenantSettings) (text : String)
    (h : Agree (Compile.IsFacetName catalog (hooks.applyExcludedFields Compile.defaultExcluded))
      first second) :
    compile catalog hooks tenant text first = compile catalog hooks tenant text second := by
  rw [compile, compile, Compile.draft_congr tenant text h]

/-- Searches that agree on facets consult the same hooks with the same things, send the same and
come to the same outcome. -/
theorem search_congr {service : Service} (request : Request)
    (h : Agree (Compile.IsFacetName service.catalog
      (service.hooks.applyExcludedFields Compile.defaultExcluded)) first second) :
    service.search { request with selections := first } =
      service.search { request with selections := second } := by
  -- A search reads selections when it compiles its query and when it consults the hooks on the way.
  have query : service.compile { request with selections := first } =
      service.compile { request with selections := second } := compile_congr _ _ h
  have events : service.compileEvents (Text.trim request.text) first =
      service.compileEvents (Text.trim request.text) second := by
    rw [Service.compileEvents, Service.compileEvents, Compile.draft_congr _ _ h]
  rw [Service.search, Service.search, query]
  simp only [events]
  rfl

end Congr

/-- Selections that agree under the names that count make the same search: the query is the same,
and so are the bodies of its pages, whether it is sent at all, what is read of any reply, and a
whole run with its events. Different facets may be selected in any order, and a later selection for
a facet replaces an earlier one. -/
theorem unrecognized_selections_inert (service : Service) (text : String) :
    let compiled := compile service.catalog service.hooks service.settings.tenant text
    let counts := Compile.IsFacetName service.catalog
      (service.hooks.applyExcludedFields Compile.defaultExcluded)
    (∀ first second : Selections, (∀ name, counts name → get? first name = get? second name) →
        compiled first = compiled second ∧
        (∀ page, service.requestBody (compiled first) page =
          service.requestBody (compiled second) page) ∧
        (compiled first).isEmpty = (compiled second).isEmpty ∧
        (∀ (reply : Reply) (fallback : TenantId),
          reply.decode (compiled first).aggregationNames fallback =
            reply.decode (compiled second).aggregationNames fallback) ∧
        ∀ request : Request, service.search { request with selections := first } =
          service.search { request with selections := second }) ∧
      (∀ (selections : Selections) (calls others : List (String × Selection)),
        (calls.map Prod.fst).Nodup → calls.Perm others →
          compiled (selections.selectAll calls) = compiled (selections.selectAll others)) ∧
      ∀ (selections : Selections) (before between after : List (String × Selection))
        (facet : String) (earlier later : Selection),
        compiled (selections.selectAll
            (before ++ (facet, earlier) :: between ++ (facet, later) :: after)) =
          compiled (selections.selectAll (before ++ between ++ (facet, later) :: after)) := by
  intro compiled counts
  refine ⟨fun first second hagree => ?_, fun selections calls others hnodup hperm => ?_,
    fun selections before between after facet earlier later => ?_⟩
  · have hquery : compiled first = compiled second := compile_congr _ _ hagree
    rw [hquery]
    exact ⟨rfl, fun _ => rfl, rfl, fun _ _ => rfl, fun request => search_congr request hagree⟩
  · exact compile_congr _ _ (agree_selectAll_of_perm selections hnodup hperm)
  · exact compile_congr _ _
      (agree_selectAll_of_later selections before between after facet earlier later)

/-- A size that is selected where only colors count, and whatever color was selected before, make no
difference. -/
theorem unrecognized_selections_inert_colors :
    let service : Service :=
      { backend := fun _ => .error .timedOut
        catalog := ({ customFacets := ["color", "size"] } : CatalogTable).toCatalog
        hooks := { excludedFields := some fun _ => ["size"] } }
    let first : Selections := [("size", .exact "xl"), ("color", .exact "red")]
    let second : Selections := [("color", .exact "red"), ("shape", .anyOf ["round", "square"])]
    let calls := [("color", Selection.exact "red"), ("size", Selection.exact "xl")]
    (∀ name, Compile.IsFacetName service.catalog ["size"] name →
      get? first name = get? second name) ∧
      (calls.map Prod.fst).Nodup ∧ calls.Perm calls.reverse ∧
      service.search { selections := first } = service.search { selections := second } ∧
      service.compile { selections := Selections.selectAll [] calls } =
        service.compile { selections := Selections.selectAll [] calls.reverse } := by
  intro service first second calls
  have hagree (name : String) (hname : Compile.IsFacetName service.catalog ["size"] name) :
      get? first name = get? second name := by
    obtain ⟨hlisted, hkept⟩ := Compile.isFacetName_customFacets_iff.1 hname
    have hcolorOrSize : name = "color" ∨ name = "size" := by simpa using hlisted
    obtain rfl := hcolorOrSize.resolve_right (mt List.mem_singleton.2 hkept)
    rfl
  obtain ⟨hinert, hperm, -⟩ := unrecognized_selections_inert service ""
  have hnodup : (calls.map Prod.fst).Nodup := by decide
  have hreverse : calls.Perm calls.reverse := calls.reverse_perm.symm
  exact ⟨hagree, hnodup, hreverse, (hinert first second hagree).2.2.2.2 {},
    hperm [] calls calls.reverse hnodup hreverse⟩

end Faceted
