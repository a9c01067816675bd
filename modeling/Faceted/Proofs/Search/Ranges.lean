import Mathlib
import Faceted.Proofs.Decimal.Halving
import Faceted.Proofs.Search.Clauses

/-!
# Adjacent ranges

A numeric field often offers ranges that lie side by side: up to a first bound, from each bound to
the next, and from the last bound on. A range has its lower bound in it and not its upper bound, so
each number is in exactly one of them, the bounds included. Selecting a range by its label gives one
clause on the field, which accepts the numbers of this range. So of the labels that a field offers
exactly one selects a number.

## Main definitions

* `Number.value` — what a number is worth
* `Json.Admits`, `NumericRange.Contains` — the numbers that a predicate
  accepts, and those in a range
* `NumericRange.adjacent` — the ranges between bounds
* `Compile.IsRanged` — a name that is filtered on by its ranges and in no other way
* `NumericRange.IsSplit` — labelled ranges that lie side by side

## Main results

* `NumericRange.admits_predicate` — the predicate of a range accepts the numbers in it
* `NumericRange.pairwise_disjoint_adjacentFrom` — adjacent ranges have no number in common
* `NumericRange.IsSplit.exists_unique` — each number is in one of the labelled ranges
* `Compile.filter_facets` — a name that is listed once is gone through once
* `compile_adjacent_ranges` — exactly one label selects a number
-/

namespace Faceted

/-- What a number is worth. -/
def Number.value : Number → ℚ
  | .integer n => n
  | .double x _ => Decimal.value x

/-- A predicate accepts the numbers that are not below its `gte` and that are below its `lt`, as far
as it has these bounds. -/
def Json.Admits (predicate : Json) (x : ℝ) : Prop :=
  (∀ bound, predicate.member? "gte" = some bound → ∃ n, bound = .number n ∧ (n.value : ℝ) ≤ x) ∧
    ∀ bound, predicate.member? "lt" = some bound → ∃ n, bound = .number n ∧ x < n.value

/-! ### Ranges side by side -/

namespace NumericRange

/-- The numbers in a range: from `least` on, and below `below`. -/
def Contains (range : NumericRange) (x : ℝ) : Prop :=
  (∀ n, range.least = some n → (n.value : ℝ) ≤ x) ∧ ∀ n, range.below = some n → x < n.value

/-- The predicate of a range accepts the numbers in it. -/
theorem admits_predicate (range : NumericRange) (x : ℝ) :
    range.predicate.Admits x ↔ range.Contains x := by
  obtain ⟨least, below⟩ := range
  have hleast : (predicate ⟨least, below⟩).member? "gte" = least.map Json.number := by
    cases least <;> cases below <;> rfl
  have hbelow : (predicate ⟨least, below⟩).member? "lt" = below.map Json.number := by
    cases least <;> cases below <;> rfl
  rw [Json.Admits, hleast, hbelow, Contains]
  simp

/-- The ranges between bounds, the first of them from `least` on. -/
def adjacentFrom (least : Option Number) : List Number → List NumericRange
  | [] => [⟨least, none⟩]
  | bound :: bounds => ⟨least, some bound⟩ :: adjacentFrom (some bound) bounds

/-- The ranges between bounds: up to the first, from each to the next, and from the last on. -/
def adjacent (bounds : List Number) : List NumericRange :=
  adjacentFrom none bounds

theorem length_adjacentFrom (least : Option Number) (bounds : List Number) :
    (adjacentFrom least bounds).length = bounds.length + 1 := by
  induction bounds generalizing least with
  | nil => rfl
  | cons bound bounds ih => rw [adjacentFrom, List.length_cons, ih, List.length_cons]

theorem exists_mem_adjacentFrom_contains {least : Option Number} {x : ℝ}
    (hleast : ∀ n, least = some n → (n.value : ℝ) ≤ x) (bounds : List Number) :
    ∃ range ∈ adjacentFrom least bounds, range.Contains x := by
  induction bounds generalizing least with
  | nil => exact ⟨⟨least, none⟩, List.mem_singleton_self _, hleast, nofun⟩
  | cons bound bounds ih =>
    rw [adjacentFrom]
    -- The number is in the first range, or it is not below the bound from which the others go on.
    rcases lt_or_ge x bound.value with hbelow | hfrom
    · refine ⟨⟨least, some bound⟩, List.mem_cons_self, hleast, ?_⟩
      rintro n ⟨⟩
      exact hbelow
    · have hbound : ∀ n, some bound = some n → (n.value : ℝ) ≤ x := by
        rintro n ⟨⟩
        exact hfrom
      obtain ⟨range, hrange, hcontains⟩ := ih hbound
      exact ⟨range, List.mem_cons_of_mem _ hrange, hcontains⟩

/-- Bounds that increase from one to the next. -/
def Increasing (bounds : List Number) : Prop :=
  bounds.Pairwise fun bound next => bound.value < next.value

/-- All that is in the ranges from a bound on is not below this bound. -/
theorem value_le_of_contains {bound : Number} {bounds : List Number}
    (h : Increasing (bound :: bounds)) {range : NumericRange}
    (hrange : range ∈ adjacentFrom (some bound) bounds) {x : ℝ} (hcontains : range.Contains x) :
    (bound.value : ℝ) ≤ x := by
  induction bounds generalizing bound with
  | nil =>
    obtain rfl := List.mem_singleton.1 hrange
    exact hcontains.1 bound rfl
  | cons next bounds ih =>
    obtain ⟨hbound, hnext⟩ := List.pairwise_cons.1 h
    rcases List.mem_cons.1 hrange with rfl | hrange
    · exact hcontains.1 bound rfl
    · have hle : (bound.value : ℝ) ≤ next.value := by
        exact_mod_cast (hbound next List.mem_cons_self).le
      exact hle.trans (ih hnext hrange)

/-- Two ranges without a number in common. -/
def Disjoint (range other : NumericRange) : Prop :=
  ∀ x, range.Contains x → ¬ other.Contains x

theorem Disjoint.symm {range other : NumericRange} (h : Disjoint range other) :
    Disjoint other range :=
  fun x hother hrange => h x hrange hother

/-- Adjacent ranges have no number in common. -/
theorem pairwise_disjoint_adjacentFrom {least : Option Number} {bounds : List Number}
    (h : Increasing bounds) :
    (adjacentFrom least bounds).Pairwise Disjoint := by
  induction bounds generalizing least with
  | nil => exact List.pairwise_singleton _ _
  | cons bound bounds ih =>
    refine List.pairwise_cons.2
      ⟨fun range hrange x hfirst hlater => ?_, ih (List.pairwise_cons.1 h).2⟩
    -- What is in the first range is below the bound from which the later ones go on.
    exact (value_le_of_contains h hrange hlater).not_gt (hfirst.2 bound rfl)

/-- Labelled ranges that lie side by side, listed in any order. -/
structure IsSplit (ranges : List (String × NumericRange)) (bounds : List Number) : Prop where
  increasing : Increasing bounds
  perm : (ranges.map Prod.snd).Perm (adjacent bounds)
  nodup : (ranges.map Prod.fst).Nodup

namespace IsSplit

variable {ranges : List (String × NumericRange)} {bounds : List Number}

theorem length_eq (h : IsSplit ranges bounds) : ranges.length = bounds.length + 1 := by
  have hlength := h.perm.length_eq
  rwa [List.length_map, adjacent, length_adjacentFrom] at hlength

theorem ne_nil (h : IsSplit ranges bounds) : ranges ≠ [] :=
  List.ne_nil_of_length_eq_add_one h.length_eq

/-- Each number is in one of the labelled ranges, and in no other. -/
theorem exists_unique (h : IsSplit ranges bounds) (x : ℝ) :
    ∃ entry ∈ ranges, entry.2.Contains x ∧
      ∀ other ∈ ranges, other.2.Contains x → other = entry := by
  obtain ⟨range, hrange, hcontains⟩ :=
    exists_mem_adjacentFrom_contains (x := x) (fun n (h : none = some n) => nomatch h) bounds
  obtain ⟨entry, hentry, rfl⟩ := List.mem_map.1 (h.perm.mem_iff.2 hrange)
  refine ⟨entry, hentry, hcontains, fun other hother hother' => ?_⟩
  by_contra hne
  have hdisjoint : (ranges.map Prod.snd).Pairwise Disjoint :=
    (h.perm.pairwise_iff Disjoint.symm).2 (pairwise_disjoint_adjacentFrom h.increasing)
  have hsymm : Std.Symm fun entry other : String × NumericRange => Disjoint entry.2 other.2 :=
    ⟨fun _ _ => Disjoint.symm⟩
  exact (List.pairwise_map.1 hdisjoint).forall hother hentry hne x hother' hcontains

end IsSplit

end NumericRange

/-! ### A name that is filtered on by ranges -/

namespace Compile

/-- A name that is filtered on by its ranges and in no other way: it is numeric and not excluded, it
is listed once, as a field, a meta field or a custom facet, and it is not the type of documents. -/
structure IsRanged (catalog : Catalog) (excluded : List String) (name : String) : Prop where
  numeric : catalog.isNumeric name = true
  notMem_excluded : name ∉ excluded
  count_eq : (catalog.fields ++ catalog.metaFields ++ catalog.customFacets).count name = 1
  notMem_taxonomies : name ∉ catalog.taxonomies
  ne_documentTypeField : name ≠ documentTypeField

section Facets

variable {catalog : Catalog} {excluded : List String} {name : String}

/-- Among named items, those of one name. -/
theorem filter_map_name (names : List String) (kind : String → ClauseKind) :
    (names.map fun listed => (listed, kind listed)).filter (fun facet => facet.1 = name) =
      List.replicate (names.count name) (name, kind name) := by
  have hname : (fun facet : String × ClauseKind => decide (facet.1 = name)) ∘
      (fun listed => (listed, kind listed)) = fun listed => decide (listed = name) := rfl
  rw [List.filter_map, hname, List.filter_eq, List.map_replicate]

theorem count_kept (hkept : name ∉ excluded) (names : List String) :
    (kept excluded names).count name = names.count name :=
  List.count_filter (decide_eq_true hkept)

/-- A name that is listed once is gone through once. -/
theorem filter_facets (h : IsRanged catalog excluded name) (hne : catalog.ranges name ≠ []) :
    (facets catalog excluded).filter (fun facet => facet.1 = name) = [(name, .range)] := by
  have hranges : HasRanges catalog name := ⟨h.numeric, hne⟩
  have hranged (names : List String) :
      ((kept excluded names).filter fun listed => HasRanges catalog listed).count name =
        names.count name :=
    (List.count_filter (a := name) (decide_eq_true hranges)).trans
      (count_kept h.notMem_excluded names)
  have hlast : (if documentTypeField ∈ catalog.fields then [(documentTypeField, ClauseKind.term)]
      else []).filter (fun facet => facet.1 = name) = [] := by
    split
    · exact List.filter_cons_of_neg (by simpa using h.ne_documentTypeField.symm)
    · rfl
  have hcount := h.count_eq
  rw [List.count_append, List.count_append] at hcount
  rw [facets]
  simp only [List.filter_append, filter_map_name, hlast, hranged, count_kept h.notMem_excluded,
    List.count_eq_zero_of_not_mem h.notMem_taxonomies, if_pos hranges,
    List.replicate_append_replicate, List.replicate_zero, List.nil_append, List.append_nil, hcount,
    List.replicate_one]

/-- The clauses on a name come from the facets of this name. -/
theorem filter_flatMap_facetClause (values : String → List String)
    (facets : List (String × ClauseKind)) :
    (facets.flatMap fun facet => (values facet.1).map (facetClause catalog facet)).filter
        (fun clause => clause.field = name) =
      (facets.filter fun facet => facet.1 = name).flatMap fun facet =>
        (values facet.1).map (facetClause catalog facet) := by
  induction facets with
  | nil => rfl
  | cons facet facets ih =>
    have hfield :
        ((fun clause : Clause => decide (clause.field = name)) ∘ facetClause catalog facet) =
        fun _ => decide (facet.1 = name) := rfl
    rw [List.flatMap_cons, List.filter_append, ih, List.filter_map, hfield]
    by_cases h : facet.1 = name <;> simp [h]

/-- A label stands for the predicate of a range that it is the label of. -/
theorem exists_facetValue_eq {label : String}
    (hlabel : label ∈ (catalog.ranges name).map Prod.fst) :
    ∃ entry ∈ catalog.ranges name, entry.1 = label ∧
      facetValue catalog (name, .range) label = entry.2.predicate := by
  rw [facetValue]
  cases hfind : (catalog.ranges name).reverse.find? fun range => decide (range.1 = label) with
  | some entry =>
    have hentry := List.mem_reverse.1 (List.mem_of_find?_eq_some hfind)
    exact ⟨entry, hentry, by simpa using List.find?_some hfind, rfl⟩
  | none =>
    obtain ⟨entry, hentry, rfl⟩ := List.mem_map.1 hlabel
    have hother := List.find?_eq_none.1 hfind entry (List.mem_reverse.2 hentry)
    exact absurd (decide_eq_true rfl) hother

end Facets

end Compile

/-- The clauses of a query on a name, required or gathered. -/
def Query.clausesOn (query : Query) (name : String) : List Clause :=
  (query.required ++ query.groups.flatMap ClauseGroup.clauses).filter fun clause =>
    clause.field = name

section Selected

variable (catalog : Catalog) (hooks : Hooks) (tenant : TenantSettings) (text : String)
  (selections : Selections) (name : String)

/-- The clauses on a name come from the facets of this name, and those of disjunctive selections are
behind the others. -/
theorem clausesOn_perm :
    let query := compile catalog hooks tenant text selections
    let named := (Compile.facets catalog (hooks.applyExcludedFields Compile.defaultExcluded)).filter
      fun facet => facet.1 = name
    (query.clausesOn name).Perm
      ((named.flatMap fun facet =>
          (selections.required facet.1).map (Compile.facetClause catalog facet))
        ++ named.flatMap fun facet =>
          (selections.alternatives facet.1).map (Compile.facetClause catalog facet)) := by
  intro query named
  have hclauses :=
    Compile.facetClauses_eq catalog (hooks.applyExcludedFields Compile.defaultExcluded) selections
  have hrequired : query.required = _ := congrArg FacetClauses.required hclauses
  have hgroups : query.groups = ClauseGroup.gather _ :=
    congrArg ClauseGroup.gather (congrArg FacetClauses.alternatives hclauses)
  rw [Query.clausesOn, List.filter_append, hrequired, hgroups, Compile.filter_flatMap_facetClause,
    ← Compile.filter_flatMap_facetClause selections.alternatives]
  exact List.Perm.append_left _ ((ClauseGroup.perm_gather _).filter _)

variable {catalog} {name}

/-- Selecting one label of a name that is filtered on by ranges gives one clause on it. -/
theorem clausesOn_select_exact
    (h : Compile.IsRanged catalog (hooks.applyExcludedFields Compile.defaultExcluded) name)
    (hne : catalog.ranges name ≠ []) (label : String) :
    (compile catalog hooks tenant text (selections.select name (.exact label))).clausesOn name =
      [⟨.range, name, Compile.facetValue catalog (name, .range) label⟩] := by
  have hselected :
      Entries.get? (selections.select name (.exact label)) name = some (.exact label) :=
    Entries.get?_put_self _ _ _
  have hperm :=
    clausesOn_perm catalog hooks tenant text (selections.select name (.exact label)) name
  simp only [Compile.filter_facets h hne, List.flatMap_singleton, Selections.required,
    Selections.alternatives, hselected] at hperm
  exact List.perm_singleton.1 hperm

/-- Of a name that is filtered on by adjacent ranges, exactly one label selects a number. There is
one label more than there are bounds. Each label, selected alone for this name, gives one clause on
it, by range. Whatever else is searched for, the clause accepts the number if and only if the label
is that of the one range that the number is in. -/
theorem compile_adjacent_ranges {bounds : List Number}
    (hname : Compile.IsRanged catalog (hooks.applyExcludedFields Compile.defaultExcluded) name)
    (hranges : NumericRange.IsSplit (catalog.ranges name) bounds) (x : ℝ) :
    (catalog.ranges name).length = bounds.length + 1 ∧
      ∃ entry ∈ catalog.ranges name, entry.2.Contains x ∧
        (∀ other ∈ catalog.ranges name, other.2.Contains x → other = entry) ∧
        ∀ label ∈ (catalog.ranges name).map Prod.fst, ∃ value,
          (compile catalog hooks tenant text
              (selections.select name (.exact label))).clausesOn name =
            [⟨.range, name, value⟩] ∧
          (value.Admits x ↔ label = entry.1) := by
  obtain ⟨entry, hentry, hcontains, hunique⟩ := hranges.exists_unique x
  refine ⟨hranges.length_eq, entry, hentry, hcontains, hunique, fun label hlabel => ?_⟩
  have hclauses := clausesOn_select_exact hooks tenant text selections hname hranges.ne_nil label
  obtain ⟨other, hother, rfl, hvalue⟩ := Compile.exists_facetValue_eq hlabel
  rw [hvalue] at hclauses
  refine ⟨other.2.predicate, hclauses, ?_⟩
  rw [NumericRange.admits_predicate]
  constructor
  · intro hadmits
    rw [hunique other hother hadmits]
  · intro hlabels
    rw [List.inj_on_of_nodup_map hranges.nodup hother hentry hlabels]
    exact hcontains

end Selected

/-- Ranges that meet in 10.5 and in 20, listed out of order. The label that selects 10.5 is that of
the range which begins there. -/
theorem compile_adjacent_ranges_price :
    let half : Number := .double 10.5 (by decide)
    let ranges : List (String × NumericRange) :=
      [("dear", ⟨some (.integer 20), none⟩), ("cheap", ⟨none, some half⟩),
        ("fair", ⟨some half, some (.integer 20)⟩)]
    let catalog := (({ metaFields := ["price"] } : CatalogTable).setRanges "price" ranges).toCatalog
    Compile.IsRanged catalog (({} : Hooks).applyExcludedFields Compile.defaultExcluded) "price" ∧
      NumericRange.IsSplit (catalog.ranges "price") [half, .integer 20] ∧
      ∀ label ∈ ["dear", "cheap", "fair"], ∃ value,
        (compile catalog {} {} "" (Selections.select [] "price" (.exact label))).clausesOn "price" =
          [⟨.range, "price", value⟩] ∧
        (value.Admits (21 / 2) ↔ label = "fair") := by
  intro half ranges catalog
  have hname : Compile.IsRanged catalog (({} : Hooks).applyExcludedFields Compile.defaultExcluded)
      "price" :=
    ⟨by decide, by decide, by decide, by decide, by decide⟩
  have hhalf : half.value = 21 / 2 := by decide +kernel
  have hranges : NumericRange.IsSplit (catalog.ranges "price") [half, .integer 20] := by
    refine ⟨?_, by decide, by decide⟩
    have hlt : half.value < (Number.integer 20).value := by
      rw [hhalf, Number.value]
      norm_num
    exact List.pairwise_pair.2 hlt
  have hfair : ("fair", ⟨some half, some (.integer 20)⟩) ∈ catalog.ranges "price" := by decide
  have hcontains : NumericRange.Contains ⟨some half, some (.integer 20)⟩ (21 / 2) := by
    constructor
    · rintro n ⟨⟩
      rw [hhalf]
      norm_num
    · rintro n ⟨⟩
      rw [Number.value]
      norm_num
  obtain ⟨-, entry, -, -, hunique, hlabels⟩ :=
    compile_adjacent_ranges {} {} "" [] hname hranges (21 / 2)
  refine ⟨hname, hranges, fun label hlabel => ?_⟩
  rw [← hunique _ hfair hcontains] at hlabels
  exact hlabels label hlabel

end Faceted
