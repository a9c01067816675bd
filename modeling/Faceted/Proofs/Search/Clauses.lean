import Faceted.Proofs.Entries
import Faceted.Proofs.Query.Gathering
import Faceted.Proofs.Search.Passes

/-!
# The clauses of a search, in order

Compiling a search goes through the facets of the catalog in a fixed order and turns each value that
is selected for a facet into one clause. The values of exact selections and of those that must all
hold are required one by one; the values of disjunctive selections are gathered by kind. A facet
that is listed more than once is gone through more than once, and its values give rise to a clause
each time. Nothing else gives rise to clauses.

## Main definitions

* `Compile.facets` — the names that are filtered on, in order
* `Compile.facetClause` — the clause of a value selected for a facet
* `Selections.required`, `Selections.alternatives` — the values selected for a facet, by operator

## Main results

* `Compile.passes_eq_map` — compiling goes through the facets in order
* `compile_clauses` — the clauses of a search
-/

namespace Faceted

/-! ### Selected values -/

namespace Selection

/-- The values that are required one by one. -/
def required : Selection → List String
  | .exact value => [value]
  | .allOf values => values
  | .anyOf _ => []

/-- The values of a disjunctive selection. -/
def alternatives : Selection → List String
  | .exact _ => []
  | .allOf _ => []
  | .anyOf values => values

theorem length_required_add_alternatives (selection : Selection) :
    selection.required.length + selection.alternatives.length = selection.values.length := by
  cases selection with
  | exact value => rfl
  | allOf values => rfl
  | anyOf values => exact Nat.zero_add _

end Selection

namespace Selections

/-- The values selected for a facet that are required one by one. -/
def required (selections : Selections) (facet : String) : List String :=
  ((Entries.get? selections facet).map Selection.required).getD []

/-- The values selected for a facet disjunctively. -/
def alternatives (selections : Selections) (facet : String) : List String :=
  ((Entries.get? selections facet).map Selection.alternatives).getD []

/-- The values selected for a facet, whatever the operator. -/
def values (selections : Selections) (facet : String) : List String :=
  ((Entries.get? selections facet).map Selection.values).getD []

theorem length_required_add_alternatives (selections : Selections) (facet : String) :
    (selections.required facet).length + (selections.alternatives facet).length =
      (selections.values facet).length := by
  rw [required, alternatives, values]
  cases Entries.get? selections facet with
  | none => rfl
  | some selection => exact selection.length_required_add_alternatives

end Selections

/-! ### Facets in order -/

namespace Compile

variable (catalog : Catalog) (excluded : List String)

instance (name : String) : Decidable (HasRanges catalog name) :=
  inferInstanceAs (Decidable (_ ∧ _))

/-- The names of a list that are not excluded. -/
def kept (names : List String) : List String :=
  names.filter fun name => name ∉ excluded

/-- The names that are filtered on, in order, each with the kind of its clauses. Of fields and meta
fields only those with ranges are filtered on. -/
def facets : List (String × ClauseKind) :=
  catalog.taxonomies.map (fun name => (name, .term))
    ++ (((kept excluded catalog.fields).filter fun name => HasRanges catalog name).map
        fun name => (name, .range))
    ++ (((kept excluded catalog.metaFields).filter fun name => HasRanges catalog name).map
        fun name => (name, .range))
    ++ ((kept excluded catalog.customFacets).map
        fun name => (name, if HasRanges catalog name then .range else .term))
    ++ if documentTypeField ∈ catalog.fields then [(documentTypeField, .term)] else []

/-- What a value selected for a facet stands for: for ranges, the predicate of the last range under
this label; otherwise, and for an unknown label, the value itself. -/
def facetValue (facet : String × ClauseKind) (label : String) : Json :=
  match facet.2 with
  | .term => .text label
  | .range =>
    match (catalog.ranges facet.1).reverse.find? fun range => decide (range.1 = label) with
    | some range => range.2.predicate
    | none => .text label

/-- The clause of a value selected for a facet. -/
def facetClause (facet : String × ClauseKind) (label : String) : Clause :=
  ⟨facet.2, facet.1, facetValue catalog facet label⟩

/-- The pass on a facet. -/
def passOf (facet : String × ClauseKind) : Pass :=
  { name := facet.1
    kind := facet.2
    predicates := match facet.2 with
      | .term => []
      | .range => rangeTable catalog facet.1 }

theorem clause_passOf (facet : String × ClauseKind) (label : String) :
    (passOf catalog facet).clause label = facetClause catalog facet label := by
  obtain ⟨name, kind⟩ := facet
  cases kind with
  | term => rfl
  | range =>
    -- The table is written range by range, so that the last range under a label is
    -- the one that is found.
    have looked : Entries.get? (rangeTable catalog name) label =
        ((catalog.ranges name).reverse.find? fun range => decide (range.1 = label)).map
          fun range => range.2.predicate := by
      rw [rangeTable, Entries.get?_ofPairs, ← List.map_reverse, List.find?_map, Option.map_map]
      rfl
    rw [Pass.clause, Pass.valueOf, facetClause, facetValue]
    simp only [passOf, looked]
    cases (catalog.ranges name).reverse.find? fun range => decide (range.1 = label) with
    | none => rfl
    | some range => rfl

/-- A pass that the catalog allows asks for what the selected value stands for. -/
theorem IsFacetPass.valueOf_eq {catalog : Catalog} {excluded : List String} {pass : Pass}
    (h : IsFacetPass catalog excluded pass) (label : String) :
    pass.valueOf label = facetValue catalog (pass.name, pass.kind) label := by
  have hpass : passOf catalog (pass.name, pass.kind) = pass := by cases h <;> rfl
  have hclause := clause_passOf catalog (pass.name, pass.kind) label
  rw [hpass] at hclause
  exact congrArg Clause.value hclause

/-- A pass yields the clauses of the values selected for its facet. -/
theorem clauses_passOf (selections : Selections) (facet : String × ClauseKind) :
    (passOf catalog facet).clauses selections =
      ⟨(selections.required facet.1).map (facetClause catalog facet),
        (selections.alternatives facet.1).map (facetClause catalog facet)⟩ := by
  have clause : (passOf catalog facet).clause = facetClause catalog facet :=
    funext (clause_passOf catalog facet)
  have name : (passOf catalog facet).name = facet.1 := rfl
  rw [Pass.clauses, Selections.required, Selections.alternatives, clause, name]
  cases Entries.get? selections facet.1 with
  | none => rfl
  | some selection => cases selection <;> rfl

/-- A listed name is gone through if it has ranges, or is a custom facet. -/
theorem pass?_eq_ite (kind : FieldKind) (name : String) :
    pass? catalog (kind, name) =
      if HasRanges catalog name then some (passOf catalog (name, .range))
      else if kind = .customFacet then some (passOf catalog (name, .term)) else none := by
  by_cases hranges : HasRanges catalog name
  · rw [if_pos hranges, pass?_eq_some_iff]
    exact Or.inl ⟨hranges, rfl⟩
  · rw [if_neg hranges]
    split
    next hcustom =>
      rw [pass?_eq_some_iff]
      exact Or.inr ⟨hranges, hcustom, rfl⟩
    next hcustom =>
      refine Option.eq_none_iff_forall_ne_some.2 fun pass hpass => ?_
      rcases pass?_eq_some_iff.1 hpass with ⟨h, -⟩ | ⟨-, h, -⟩
      · exact hranges h
      · exact hcustom h

/-- What is computed for the items of a list that pass a test. -/
theorem filterMap_ite {α β : Type} (p : α → Prop) [DecidablePred p] (f : α → β) (items : List α) :
    (items.filterMap fun item => if p item then some (f item) else none) =
      (items.filter fun item => p item).map f := by
  rw [← List.filterMap_eq_map, List.filterMap_filter]
  refine List.filterMap_congr fun item _ => ?_
  simp only [decide_eq_true_eq, Function.comp_apply]

theorem filterMap_listed {β : Type} (f : FieldKind × String → Option β) (kind : FieldKind)
    (names : List String) :
    ((names.map (kind, ·)).filter fun entry => !excluded.contains entry.2).filterMap f =
      (kept excluded names).filterMap fun name => f (kind, name) := by
  have same : (fun name => !excluded.contains name) = fun name => decide (name ∉ excluded) := by
    funext name
    simp
  rw [List.filter_map, List.filterMap_map, kept, ← same]
  rfl

/-- The listed names are gone through kind by kind. -/
theorem filterMap_listings {β : Type} (f : FieldKind × String → Option β) :
    (listings catalog excluded).filterMap f =
      ((kept excluded catalog.fields).filterMap fun name => f (.field, name))
        ++ ((kept excluded catalog.metaFields).filterMap fun name => f (.metaField, name))
        ++ ((kept excluded catalog.customFacets).filterMap fun name => f (.customFacet, name)) := by
  rw [listings, List.filter_append, List.filter_append, List.filterMap_append,
    List.filterMap_append, filterMap_listed, filterMap_listed, filterMap_listed]

theorem filterMap_pass?_of_ne {kind : FieldKind} (hkind : kind ≠ .customFacet)
    (names : List String) :
    (names.filterMap fun name => pass? catalog (kind, name)) =
      ((names.filter fun name => HasRanges catalog name).map
        fun name => (name, ClauseKind.range)).map (passOf catalog) := by
  rw [List.map_map]
  simp only [pass?_eq_ite, if_neg hkind]
  exact filterMap_ite _ _ names

theorem filterMap_pass?_customFacet (names : List String) :
    (names.filterMap fun name => pass? catalog (.customFacet, name)) =
      (names.map fun name =>
          (name, if HasRanges catalog name then ClauseKind.range else .term)).map
        (passOf catalog) := by
  rw [List.map_map, ← List.filterMap_eq_map]
  refine List.filterMap_congr fun name _ => ?_
  rw [pass?_eq_ite, if_pos rfl, Function.comp_apply, Function.comp_apply]
  split
  · rfl
  · rfl

/-- Compiling goes through the facets in order. -/
theorem passes_eq_map :
    passes catalog excluded = (facets catalog excluded).map (passOf catalog) := by
  have documentType : documentTypePass catalog =
      (if documentTypeField ∈ catalog.fields then [(documentTypeField, ClauseKind.term)]
        else []).map (passOf catalog) := by
    rw [documentTypePass]
    by_cases h : documentTypeField ∈ catalog.fields
    · rw [if_pos h, if_pos (List.contains_iff_mem.2 h)]
      rfl
    · rw [if_neg h, if_neg (mt List.contains_iff_mem.1 h)]
      rfl
  have taxonomies : (catalog.taxonomies.map fun name => ({ name := name, kind := .term } : Pass)) =
      (catalog.taxonomies.map fun name => (name, ClauseKind.term)).map (passOf catalog) := by
    rw [List.map_map]
    rfl
  rw [passes, filterMap_listings, filterMap_pass?_of_ne catalog (by simp),
    filterMap_pass?_of_ne catalog (by simp), filterMap_pass?_customFacet, documentType,
    taxonomies, facets]
  simp only [List.map_append, List.append_assoc]

/-- The clauses of all facets, those that are required and those of disjunctive selections. -/
theorem facetClauses_eq (selections : Selections) :
    facetClauses catalog excluded selections =
      ⟨(facets catalog excluded).flatMap fun facet =>
          (selections.required facet.1).map (facetClause catalog facet),
        (facets catalog excluded).flatMap fun facet =>
          (selections.alternatives facet.1).map (facetClause catalog facet)⟩ := by
  rw [facetClauses, FacetClauses.concat_eq, passes_eq_map, List.map_map, List.flatMap_map,
    List.flatMap_map]
  simp only [Function.comp_apply, clauses_passOf]

/-! ### Counting clauses -/

theorem countP_map_facetClause (facet : String × ClauseKind) (labels : List String)
    (name : String) :
    (labels.map (facetClause catalog facet)).countP (fun clause => clause.field = name) =
      if facet.1 = name then labels.length else 0 := by
  rw [List.countP_map]
  have field : ((fun clause : Clause => decide (clause.field = name)) ∘ facetClause catalog facet) =
      fun _ => decide (facet.1 = name) := rfl
  rw [field]
  by_cases h : facet.1 = name <;> simp [h]

/-- Every time a name is gone through, each value selected for it gives rise to one clause. -/
theorem countP_facetClauses (selections : Selections) (name : String)
    (facets : List (String × ClauseKind)) :
    (facets.flatMap fun facet =>
            (selections.required facet.1).map (facetClause catalog facet)).countP
          (fun clause => clause.field = name)
        + (facets.flatMap fun facet =>
            (selections.alternatives facet.1).map (facetClause catalog facet)).countP
          (fun clause => clause.field = name) =
      (facets.map Prod.fst).count name * (selections.values name).length := by
  induction facets with
  | nil => simp
  | cons facet rest ih =>
    have values := selections.length_required_add_alternatives name
    -- The values of the facet are split between the two lists, and each counts in one of them.
    rw [List.flatMap_cons, List.flatMap_cons, List.countP_append, List.countP_append, List.map_cons,
      List.count_cons, countP_map_facetClause, countP_map_facetClause, Nat.add_mul, ← ih]
    by_cases h : facet.1 = name
    · subst h
      simp only [if_true, beq_self_eq_true, Nat.one_mul, ← values]
      omega
    · simp [h]

end Compile

/-- The clauses of a search, whatever its text and hooks. Facet by facet, in order, every value that
must hold is required, and every value of a disjunctive selection is a member of the group of its
kind, the groups being the stable split of these values. So the clauses on a name, required or
gathered, are as many as the values selected for it, once for each time that the name is a facet. -/
theorem compile_clauses (catalog : Catalog) (hooks : Hooks) (tenant : TenantSettings)
    (text : String) (selections : Selections) :
    let query := compile catalog hooks tenant text selections
    let facets := Compile.facets catalog (hooks.applyExcludedFields Compile.defaultExcluded)
    let alternatives := facets.flatMap fun facet =>
      (selections.alternatives facet.1).map (Compile.facetClause catalog facet)
    query.required =
        (facets.flatMap fun facet =>
          (selections.required facet.1).map (Compile.facetClause catalog facet)) ∧
      query.groups.map ClauseGroup.kind = (alternatives.map Clause.kind).eraseDups ∧
      (∀ group ∈ query.groups,
        group.clauses = alternatives.filter fun clause => clause.kind = group.kind) ∧
      ∀ name : String,
        query.required.countP (fun clause => clause.field = name)
            + (query.groups.flatMap ClauseGroup.clauses).countP
              (fun clause => clause.field = name) =
          (facets.map Prod.fst).count name * (selections.values name).length := by
  intro query facets alternatives
  have clauses := Compile.facetClauses_eq catalog
    (hooks.applyExcludedFields Compile.defaultExcluded) selections
  have required : query.required = facets.flatMap fun facet =>
      (selections.required facet.1).map (Compile.facetClause catalog facet) :=
    congrArg FacetClauses.required clauses
  have groups : query.groups = ClauseGroup.gather alternatives :=
    congrArg ClauseGroup.gather (congrArg FacetClauses.alternatives clauses)
  rw [groups]
  refine ⟨required, ClauseGroup.map_kind_gather alternatives,
    fun group hgroup => ClauseGroup.eq_filter_of_mem_gather hgroup, fun name => ?_⟩
  rw [required, (ClauseGroup.perm_gather alternatives).countP_eq]
  exact Compile.countP_facetClauses catalog selections name facets

end Faceted
