import Faceted.Proofs.Search.Aggregations
import Faceted.Proofs.Search.Meaning

/-!
# Fragments that add conditions

A fragment from outside is laid over the document of a search. If all it has under the condition of
the query are lists of further conditions, then it can make a search stricter but cannot loosen it:
the conditions of the search stay in place and in order, those of the fragment come after them, and
nothing else under the condition is touched.

## Main definitions

* `AddsConditions` — a fragment has lists where a search has its conditions, or has nothing there

## Main results

* `Query.document_addsConditions` — the conditions of a query under a fragment
* `document_compile_addsConditions` — a compiled search under a fragment
-/

namespace Faceted

open Entries Json

/-- Under its condition a fragment has objects down to `must` and `filter`, and lists there; what is
absent counts as an empty object or list. -/
structure AddsConditions (fragment : Entries Json) (must filter : List Json) : Prop where
  /-- No object of the fragment repeats a name. -/
  distinct : (Json.object fragment).Distinct
  query : ∃ members, HoldsMembers ((Json.object fragment).at? ["query"]) members
  bool : ∃ members, HoldsMembers ((Json.object fragment).at? ["query", "bool"]) members
  must : HoldsItems ((Json.object fragment).at? ["query", "bool", "must"]) must
  filter : HoldsItems ((Json.object fragment).at? ["query", "bool", "filter"]) filter

/-- The objects in which a fragment has its conditions. -/
theorem AddsConditions.exists_members {fragment : Entries Json} {must filter : List Json}
    (h : AddsConditions fragment must filter) :
    ∃ query bool : Entries Json,
      (keys fragment).Nodup ∧ (keys query).Nodup ∧ (keys bool).Nodup ∧
        HoldsMembers (get? fragment "query") query ∧ HoldsMembers (get? query "bool") bool ∧
        HoldsItems (get? bool "must") must ∧ HoldsItems (get? bool "filter") filter := by
  obtain ⟨query, hquery⟩ := h.query
  obtain ⟨bool, hbool⟩ := h.bool
  have hmust := h.must
  have hfilter := h.filter
  rw [at?_singleton] at hquery
  rw [at?_cons, hquery.bind_at?, at?_singleton] at hbool
  rw [at?_cons, hquery.bind_at?, at?_cons, hbool.bind_at?, at?_singleton] at hmust hfilter
  -- What is below a fragment that repeats no name repeats none either.
  have hqueryDistinct := hquery.distinct fun value hvalue => h.distinct.of_get? hvalue
  have hboolDistinct := hbool.distinct fun value hvalue => hqueryDistinct.of_get? hvalue
  exact ⟨query, bool, h.distinct.nodup_keys, hqueryDistinct.nodup_keys, hboolDistinct.nodup_keys,
    hquery, hbool, hmust, hfilter⟩

namespace Query

variable (query : Query)

/-- The lists of conditions of a query, empty ones left out. -/
def conditionLists : Entries Json :=
  listed "must" query.mustJson ++ listed "filter" query.filterJson

theorem holdsItems_listed (name : String) (items : List Json) :
    HoldsItems (get? (listed name items) name) items := by
  rw [Condition.get?_listed_self]
  cases items with
  | nil => exact Or.inr ⟨rfl, rfl⟩
  | cons item rest => exact Or.inl rfl

theorem holdsItems_must : HoldsItems (get? query.conditionLists "must") query.mustJson := by
  have hfilter : get? (listed "filter" query.filterJson) "must" = none :=
    Condition.get?_listed_of_ne _ (by decide)
  rw [conditionLists, get?_append, hfilter, Option.or_none]
  exact holdsItems_listed "must" query.mustJson

theorem holdsItems_filter : HoldsItems (get? query.conditionLists "filter") query.filterJson := by
  have hmust : get? (listed "must" query.mustJson) "filter" = none :=
    Condition.get?_listed_of_ne _ (by decide)
  rw [conditionLists, get?_append, hmust, Option.none_or]
  exact holdsItems_listed "filter" query.filterJson

theorem get?_conditionLists_of_ne {name : String} (hmust : name ≠ "must")
    (hfilter : name ≠ "filter") : get? query.conditionLists name = none := by
  rw [conditionLists, get?_append, Condition.get?_listed_of_ne _ (Ne.symm hmust),
    Condition.get?_listed_of_ne _ (Ne.symm hfilter), Option.or_none]

/-- The condition of a query has nothing but lists of conditions, and is
absent if both are empty. -/
theorem exists_condition_members :
    ∃ members, HoldsMembers (get? query.sections "query") members ∧
      HoldsMembers (get? members "bool") query.conditionLists ∧
      ∀ name, name ≠ "bool" → get? members name = none := by
  rw [Condition.get?_sections_query, conditionJson?]
  split
  next h =>
    rw [Bool.and_eq_true, List.isEmpty_iff, List.isEmpty_iff] at h
    have hempty : query.conditionLists = [] := by
      rw [conditionLists, h.1, h.2]
      rfl
    exact ⟨[], Or.inr ⟨rfl, rfl⟩, Or.inr ⟨rfl, hempty⟩, fun _ _ => rfl⟩
  next h =>
    exact ⟨_, Or.inl rfl, Or.inl rfl, fun name hname => get?_cons_of_ne _ _ (Ne.symm hname)⟩

/-- A fragment does not change the sections that it is laid over. -/
theorem sections_withExtensions (extensions : Entries Json) :
    sections { query with extensions := extensions } = query.sections := rfl

/-- Under a fragment that adds conditions a query keeps its own, in front of those of the fragment.
Whatever else is under the condition is as the fragment has it. -/
theorem document_addsConditions {must filter : List Json}
    (h : AddsConditions query.extensions must filter) :
    let document := Json.object query.document
    let fragment := Json.object query.extensions
    HoldsItems (document.at? ["query", "bool", "must"]) (query.mustJson ++ must) ∧
      HoldsItems (document.at? ["query", "bool", "filter"]) (query.filterJson ++ filter) ∧
      (∀ name, name ≠ "must" → name ≠ "filter" →
        document.at? ["query", "bool", name] = fragment.at? ["query", "bool", name]) ∧
      ∀ name, name ≠ "bool" → document.at? ["query", name] = fragment.at? ["query", name] := by
  intro document fragment
  obtain ⟨more, moreLists, hfragment, hmore, hmoreLists, hmoreQuery, hmoreBool, hmust, hfilter⟩ :=
    h.exists_members
  obtain ⟨own, hown, hownBool, hownOther⟩ := query.exists_condition_members
  have hquery : HoldsMembers (get? query.document "query") (overlay own more) :=
    hown.overlay hfragment hmore hmoreQuery
  have hbool :
      HoldsMembers (get? (overlay own more) "bool") (overlay query.conditionLists moreLists) :=
    hownBool.overlay hmore hmoreLists hmoreBool
  -- Both in the document and in the fragment a path leads through the objects below `query`.
  have below (name : String) : document.at? ["query", name] = get? (overlay own more) name := by
    rw [at?_cons, hquery.bind_at?, at?_singleton]
  have belowBool (name : String) :
      document.at? ["query", "bool", name] =
        get? (overlay query.conditionLists moreLists) name := by
    rw [at?_cons, hquery.bind_at?, at?_cons, hbool.bind_at?, at?_singleton]
  refine ⟨?_, ?_, fun name hnotMust hnotFilter => ?_, fun name hnotBool => ?_⟩
  · rw [belowBool]
    exact query.holdsItems_must.overlay hmoreLists hmust
  · rw [belowBool]
    exact query.holdsItems_filter.overlay hmoreLists hfilter
  · rw [belowBool,
      get?_overlay_of_eq_none hmoreLists (query.get?_conditionLists_of_ne hnotMust hnotFilter),
      at?_cons, hmoreQuery.bind_at?, at?_cons, hmoreBool.bind_at?, at?_singleton]
  · rw [below, get?_overlay_of_eq_none hmore (hownOther name hnotBool), at?_cons,
      hmoreQuery.bind_at?, at?_singleton]

end Query

/-- A search keeps its conditions under a fragment that adds conditions. Its list `must` begins with
the text clause and the required clauses and its list `filter` with the groups, and the items of the
fragment follow. All else under the condition of the query is the fragment's, and as a whole the
document is that of the search without the fragment, with the fragment laid over it name by name. -/
theorem document_compile_addsConditions (catalog : Catalog) (hooks : Hooks)
    (tenant : TenantSettings) (text : String) (selections : Selections) {must filter : List Json}
    (h : AddsConditions (hooks.applyFragment (Compile.draft catalog hooks tenant text selections))
      must filter) :
    let query := compile catalog hooks tenant text selections
    let document := query.document
    let fragment := hooks.applyFragment (Compile.draft catalog hooks tenant text selections)
    let plain := (compile catalog { hooks with fragment := none } tenant text selections).document
    HoldsItems ((Json.object document).at? ["query", "bool", "must"])
        (query.fullText.toList.map FullText.toJson ++ query.required.map Clause.toJson ++ must) ∧
      HoldsItems ((Json.object document).at? ["query", "bool", "filter"])
        (query.groups.map ClauseGroup.toJson ++ filter) ∧
      (∀ name, name ≠ "must" → name ≠ "filter" →
        (Json.object document).at? ["query", "bool", name] =
          (Json.object fragment).at? ["query", "bool", name]) ∧
      (∀ name, name ≠ "bool" →
        (Json.object document).at? ["query", name] = (Json.object fragment).at? ["query", name]) ∧
      (∀ name, get? document name =
        ((get? fragment name).map (overlayValue (get? plain name))).or (get? plain name)) ∧
      document = overlay plain fragment := by
  intro query document fragment plain
  have hnodup : (keys fragment).Nodup := by
    obtain ⟨_, _, hnodup, -⟩ := h.exists_members
    exact hnodup
  have hextensions : query.extensions = fragment := overlay_nil_left hnodup
  have hdraft : Compile.draft catalog { hooks with fragment := none } tenant text selections =
      Compile.draft catalog hooks tenant text selections := rfl
  have hplain : plain = (Compile.draft catalog hooks tenant text selections).sections := by
    rw [← hdraft]
    exact Compile.document_compile catalog _ tenant text selections rfl
  have hdocument : document = overlay plain fragment := by
    calc document
        = overlay query.sections query.extensions := rfl
      _ = overlay plain fragment := by
        rw [hextensions, hplain]
        exact congrArg (overlay · fragment) (Query.sections_withExtensions _ _)
  have hadds : AddsConditions query.extensions must filter := by
    rw [hextensions]
    exact h
  obtain ⟨hmust, hfilter, hbool, hquery⟩ := query.document_addsConditions hadds
  rw [hextensions] at hbool hquery
  rw [Query.mustJson] at hmust
  rw [Query.filterJson] at hfilter
  refine ⟨hmust, hfilter, hbool, hquery, fun name => ?_, hdocument⟩
  rw [hdocument, get?_overlay plain hnodup]

/-- A host that shows published documents only adds that condition after the selected color, and may
set something else of the condition beside it. -/
theorem document_compile_addsConditions_published :
    let published : Json := .object [("term", .object [("status", .text "publish")])]
    let fragment : Entries Json :=
      [("query", .object [("bool", .object [("must", .array [published]), ("boost", .nat 2)])]),
        ("aggs", .object [("year", .null)])]
    let catalog := ({ customFacets := ["color"] } : CatalogTable).toCatalog
    let hooks : Hooks := { fragment := some fun _ => fragment }
    let query := compile catalog hooks {} "" [("color", .exact "red")]
    AddsConditions fragment [published] [] ∧
      HoldsItems ((Json.object query.document).at? ["query", "bool", "must"])
        [.object [("term", .object [("color", .text "red")])], published] ∧
      (Json.object query.document).at? ["query", "bool", "boost"] = some (.nat 2) := by
  intro published fragment catalog hooks query
  have hadds : AddsConditions fragment [published] [] :=
    { distinct := by
        simp [fragment, published, Distinct, DistinctMembers, DistinctItems, keys, Json.nat]
      query := ⟨_, Or.inl rfl⟩
      bool := ⟨_, Or.inl rfl⟩
      must := Or.inl rfl
      filter := Or.inr ⟨rfl, rfl⟩ }
  obtain ⟨hmust, -, hbool, -⟩ :=
    document_compile_addsConditions catalog hooks {} "" [("color", .exact "red")] hadds
  exact ⟨hadds, hmust, hbool "boost" (by decide) (by decide)⟩

end Faceted
