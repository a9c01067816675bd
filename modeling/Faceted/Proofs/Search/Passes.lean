import Faceted.Search.Compile

/-!
# The names that can be filtered on

Compiling a search goes through the catalog pass by pass. Which passes there are is said
here without the order of compiling: a selected value counts exactly if it was selected
under one of these names.

## Main definitions

* `Compile.HasRanges` — a name offers named ranges to select
* `Compile.rangeTable` — what the labels of a name's ranges stand for
* `Compile.IsFacetPass` — the passes that a catalog and a list of excluded names allow
* `Compile.IsFacetName` — the names under which a selection counts

## Main results

* `mem_passes_iff` — compiling goes through exactly these passes
* `forall_mem_passes_iff` — the names of the passes are those under which a selection counts
-/

namespace Faceted.Compile

/-- A name offers ranges to select: it is numeric and has at least one. -/
def HasRanges (catalog : Catalog) (name : String) : Prop :=
  catalog.isNumeric name = true ∧ catalog.ranges name ≠ []

/-- What the labels of a name's ranges stand for; of two ranges with one label the last counts. -/
def rangeTable (catalog : Catalog) (name : String) : Entries Json :=
  Entries.ofPairs ((catalog.ranges name).map fun range => (range.1, range.2.predicate))

/-- The passes that a catalog allows if some of its names are excluded. Taxonomies and the type of
documents are never excluded. -/
inductive IsFacetPass (catalog : Catalog) (excluded : List String) : Pass → Prop where
  | taxonomy {name : String} (hlisted : name ∈ catalog.taxonomies) :
      IsFacetPass catalog excluded { name := name, kind := .term }
  | ranged {name : String}
      (hlisted : name ∈ catalog.fields ∨ name ∈ catalog.metaFields ∨ name ∈ catalog.customFacets)
      (hkept : name ∉ excluded) (hranges : HasRanges catalog name) :
      IsFacetPass catalog excluded
        { name := name, kind := .range, predicates := rangeTable catalog name }
  | customFacet {name : String} (hlisted : name ∈ catalog.customFacets)
      (hkept : name ∉ excluded) (hranges : ¬ HasRanges catalog name) :
      IsFacetPass catalog excluded { name := name, kind := .term }
  | documentType (hlisted : documentTypeField ∈ catalog.fields) :
      IsFacetPass catalog excluded { name := documentTypeField, kind := .term }

/-- The names under which a selection counts: taxonomies, custom facets and ranged fields that are
not excluded, and the type of documents. -/
inductive IsFacetName (catalog : Catalog) (excluded : List String) : String → Prop where
  | taxonomy {name : String} (hlisted : name ∈ catalog.taxonomies) :
      IsFacetName catalog excluded name
  | customFacet {name : String} (hlisted : name ∈ catalog.customFacets) (hkept : name ∉ excluded) :
      IsFacetName catalog excluded name
  | ranged {name : String} (hlisted : name ∈ catalog.fields ∨ name ∈ catalog.metaFields)
      (hkept : name ∉ excluded) (hranges : HasRanges catalog name) :
      IsFacetName catalog excluded name
  | documentType (hlisted : documentTypeField ∈ catalog.fields) :
      IsFacetName catalog excluded documentTypeField

variable {catalog : Catalog} {excluded : List String} {name : String} {kind : FieldKind}
  {pass : Pass}

theorem mem_listings_iff :
    (kind, name) ∈ listings catalog excluded ↔
      (kind = .field ∧ name ∈ catalog.fields ∨ kind = .metaField ∧ name ∈ catalog.metaFields ∨
        kind = .customFacet ∧ name ∈ catalog.customFacets) ∧ name ∉ excluded := by
  have tagged (names : List String) (tag : FieldKind) :
      (kind, name) ∈ names.map (tag, ·) ↔ kind = tag ∧ name ∈ names := by
    rw [List.mem_map]
    constructor
    · rintro ⟨listed, hlisted, heq⟩
      obtain ⟨rfl, rfl⟩ := Prod.mk.inj heq
      exact ⟨rfl, hlisted⟩
    · rintro ⟨rfl, hlisted⟩
      exact ⟨name, hlisted, rfl⟩
  simp only [listings, List.mem_filter, List.mem_append, tagged, or_assoc, Bool.not_eq_true',
    List.contains_eq_mem, decide_eq_false_iff_not]

theorem selectableRanges_eq_nil_iff :
    selectableRanges catalog name = [] ↔ ¬ HasRanges catalog name := by
  by_cases h : catalog.isNumeric name <;> simp [selectableRanges, HasRanges, h]

theorem HasRanges.selectableRanges (h : HasRanges catalog name) :
    selectableRanges catalog name = catalog.ranges name :=
  if_pos h.1

/-- A listed name is filtered on by its ranges if it offers any; without ranges only a custom
facet is filtered on. -/
theorem pass?_eq_some_iff :
    pass? catalog (kind, name) = some pass ↔
      HasRanges catalog name ∧
          pass = { name := name, kind := .range, predicates := rangeTable catalog name } ∨
        ¬ HasRanges catalog name ∧ kind = .customFacet ∧
          pass = { name := name, kind := .term } := by
  by_cases hranges : HasRanges catalog name
  · -- The match is on the list of ranges, which is given as a first one and the others.
    obtain ⟨range, ranges, hcons⟩ := List.exists_cons_of_ne_nil hranges.2
    have hselectable : selectableRanges catalog name = range :: ranges :=
      hranges.selectableRanges.trans hcons
    simp [pass?, hselectable, hranges, rangeTable, hcons, eq_comm]
  · have hselectable := selectableRanges_eq_nil_iff.2 hranges
    simp [pass?, hselectable, hranges, eq_comm]

/-- Compiling goes through exactly the passes that the catalog allows. -/
theorem mem_passes_iff : pass ∈ passes catalog excluded ↔ IsFacetPass catalog excluded pass := by
  simp only [passes, List.mem_append, List.mem_map, List.mem_filterMap, Prod.exists,
    documentTypePass]
  constructor
  · rintro ((⟨name, hname, rfl⟩ | ⟨kind, name, hlisted, hpass⟩) | hpass)
    · exact .taxonomy hname
    · obtain ⟨hname, hkept⟩ := mem_listings_iff.1 hlisted
      rcases pass?_eq_some_iff.1 hpass with ⟨hranges, rfl⟩ | ⟨hranges, hcustom, rfl⟩
      · refine .ranged ?_ hkept hranges
        rcases hname with ⟨-, h⟩ | ⟨-, h⟩ | ⟨-, h⟩
        · exact Or.inl h
        · exact Or.inr (Or.inl h)
        · exact Or.inr (Or.inr h)
      · subst hcustom
        refine .customFacet ?_ hkept hranges
        simpa using hname
    · split at hpass
      next h =>
        rw [List.mem_singleton.1 hpass]
        exact .documentType (by simpa using h)
      next => exact absurd hpass List.not_mem_nil
  · intro h
    cases h with
    | taxonomy hlisted => exact Or.inl (Or.inl ⟨_, hlisted, rfl⟩)
    | @ranged name hlisted hkept hranges =>
      have hpass (kind : FieldKind) :=
        (@pass?_eq_some_iff catalog name kind _).2 (Or.inl ⟨hranges, rfl⟩)
      refine Or.inl (Or.inr ?_)
      rcases hlisted with h | h | h
      · exact ⟨.field, name, mem_listings_iff.2 ⟨Or.inl ⟨rfl, h⟩, hkept⟩, hpass _⟩
      · exact ⟨.metaField, name, mem_listings_iff.2 ⟨Or.inr (Or.inl ⟨rfl, h⟩), hkept⟩, hpass _⟩
      · exact ⟨.customFacet, name, mem_listings_iff.2 ⟨Or.inr (Or.inr ⟨rfl, h⟩), hkept⟩, hpass _⟩
    | @customFacet name hlisted hkept hranges =>
      exact Or.inl (Or.inr ⟨.customFacet, name,
        mem_listings_iff.2 ⟨Or.inr (Or.inr ⟨rfl, hlisted⟩), hkept⟩,
        pass?_eq_some_iff.2 (Or.inr ⟨hranges, rfl, rfl⟩)⟩)
    | documentType hlisted =>
      refine Or.inr ?_
      rw [if_pos (by simpa using hlisted)]
      exact List.mem_singleton_self _

theorem IsFacetPass.isFacetName (h : IsFacetPass catalog excluded pass) :
    IsFacetName catalog excluded pass.name := by
  cases h with
  | taxonomy hlisted => exact .taxonomy hlisted
  | ranged hlisted hkept hranges =>
    rcases hlisted with h | h | h
    · exact .ranged (Or.inl h) hkept hranges
    · exact .ranged (Or.inr h) hkept hranges
    · exact .customFacet h hkept
  | customFacet hlisted hkept hranges => exact .customFacet hlisted hkept
  | documentType hlisted => exact .documentType hlisted

/-- A name under which a selection counts is that of a pass. A custom facet has one in any case, of
ranges if it offers any. -/
theorem IsFacetName.exists_pass (h : IsFacetName catalog excluded name) :
    ∃ pass, IsFacetPass catalog excluded pass ∧ pass.name = name := by
  cases h with
  | taxonomy hlisted => exact ⟨_, .taxonomy hlisted, rfl⟩
  | customFacet hlisted hkept =>
    by_cases hranges : HasRanges catalog name
    · exact ⟨_, .ranged (Or.inr (Or.inr hlisted)) hkept hranges, rfl⟩
    · exact ⟨_, .customFacet hlisted hkept hranges, rfl⟩
  | ranged hlisted hkept hranges =>
    exact ⟨_, .ranged (hlisted.imp_right Or.inl) hkept hranges, rfl⟩
  | documentType hlisted => exact ⟨_, .documentType hlisted, rfl⟩

/-- If a catalog lists nothing but custom facets, then those count that are not excluded. -/
theorem isFacetName_customFacets_iff {names : List String} :
    IsFacetName ({ customFacets := names } : CatalogTable).toCatalog excluded name ↔
      name ∈ names ∧ name ∉ excluded := by
  constructor
  · intro h
    cases h with
    | taxonomy hlisted => exact absurd hlisted List.not_mem_nil
    | customFacet hlisted hkept => exact ⟨hlisted, hkept⟩
    | ranged hlisted => exact absurd hlisted (not_or_intro List.not_mem_nil List.not_mem_nil)
    | documentType hlisted => exact absurd hlisted List.not_mem_nil
  · rintro ⟨hlisted, hkept⟩
    exact .customFacet hlisted hkept

/-- If a catalog lists nothing but custom facets, then the passes are by terms, one for each of
those that are not excluded. -/
theorem isFacetPass_customFacets_iff {names : List String} :
    IsFacetPass ({ customFacets := names } : CatalogTable).toCatalog excluded pass ↔
      ∃ name ∈ names, name ∉ excluded ∧ pass = { name := name, kind := .term } := by
  -- Such a catalog has no numeric names.
  have noRanges (name : String) :
      ¬ HasRanges ({ customFacets := names } : CatalogTable).toCatalog name :=
    fun hranges => Bool.false_ne_true hranges.1
  constructor
  · intro h
    cases h with
    | taxonomy hlisted => exact absurd hlisted List.not_mem_nil
    | ranged _ _ hranges => exact absurd hranges (noRanges _)
    | customFacet hlisted hkept => exact ⟨_, hlisted, hkept, rfl⟩
    | documentType hlisted => exact absurd hlisted List.not_mem_nil
  · rintro ⟨name, hlisted, hkept, rfl⟩
    exact .customFacet hlisted hkept (noRanges name)

/-- What holds of the name of every pass holds of every name under which a selection counts. -/
theorem forall_mem_passes_iff (p : String → Prop) :
    (∀ pass ∈ passes catalog excluded, p pass.name) ↔
      ∀ name, IsFacetName catalog excluded name → p name := by
  constructor
  · intro h name hname
    obtain ⟨pass, hpass, rfl⟩ := hname.exists_pass
    exact h pass (mem_passes_iff.2 hpass)
  · intro h pass hpass
    exact h pass.name (mem_passes_iff.1 hpass).isFacetName

end Faceted.Compile
