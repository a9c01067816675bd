import Faceted.Proofs.Query.Condition
import Faceted.Proofs.Search.Clauses

/-!
# What a search matches

A compiled search, as it is sent, matches a document if the text clause accepts it and if
every value that is selected under the name of a pass has a clause that accepts it. The
statement is about the document that is sent, with its sections and thresholds: partitioning
the selections, gathering the disjunctive ones into shared groups and leaving out empty
sections neither lose nor add a condition.

A disjunctive selection is no exception. Its clauses go into a group whose threshold is the number
of its members, so that a document has to match all of them.

## Main results

* `Compile.document_compile` — without a fragment a search is sent as its sections
* `acceptsDocument_compile_iff` — the meaning of a compiled search
-/

namespace Faceted

open Condition

section Compile

variable (catalog : Catalog) (hooks : Hooks) (tenant : TenantSettings) (text : String)
  (selections : Selections)

/-- Without a fragment, what is sent of a search is its sections. -/
theorem Compile.document_compile (hfragment : hooks.fragment = none) :
    (compile catalog hooks tenant text selections).document =
      (Compile.draft catalog hooks tenant text selections).sections := by
  have hextensions : (compile catalog hooks tenant text selections).extensions = [] := by
    rw [compile_extensions, Hooks.applyFragment_of_none hfragment, Json.overlay_nil]
  rw [Query.document, hextensions, Json.overlay_nil]
  rfl

/-- A compiled search matches what its text clause accepts, if it has one, and what the clause of
every value accepts that is selected under the name of a pass, whatever the operator. -/
theorem acceptsDocument_compile_iff (leaf : Json → Bool) (hfragment : hooks.fragment = none) :
    acceptsDocument leaf (compile catalog hooks tenant text selections).document = true ↔
      (∀ clause ∈ (compile catalog hooks tenant text selections).fullText,
        leaf clause.toJson = true) ∧
      ∀ pass, Compile.IsFacetPass catalog (hooks.applyExcludedFields Compile.defaultExcluded) pass →
        ∀ selection ∈ Entries.get? selections pass.name, ∀ value ∈ selection.values,
          leaf (.object [(pass.kind.name, .object
            [(pass.name, Compile.facetValue catalog (pass.name, pass.kind) value)])]) = true := by
  rw [Compile.document_compile catalog hooks tenant text selections hfragment,
    acceptsDocument_sections_iff]
  refine and_congr Iff.rfl ?_
  -- What is left compares the required clauses and the groups with the selected values.
  refine (Pass.forall_gathered_iff _ selections fun clause => leaf clause.toJson = true).trans
    (forall_congr' fun pass => ?_)
  rw [Compile.mem_passes_iff]
  refine imp_congr_right fun hpass => ?_
  simp only [Pass.clause, Clause.toJson, hpass.valueOf_eq]

end Compile

/-- A document that is red and cheap, and neither blue nor dear: it is matched if red and cheap
are selected, and is not matched if another color or another range of prices is selected beside
them, even disjunctively. -/
theorem acceptsDocument_compile_colors :
    let catalog :=
      (({ fields := ["price"], customFacets := ["color"] } : CatalogTable).setRanges "price"
        [("cheap", ⟨none, some (.integer 10)⟩), ("dear", ⟨some (.integer 10), none⟩)]).toCatalog
    let isCheapRed : Json → Bool := fun leaf =>
      (leaf.at? ["term", "color"]).bind Json.text? == some "red" ||
        (leaf.at? ["range", "price", "lt"]).isSome
    let isMatched (selections : Selections) : Bool :=
      acceptsDocument isCheapRed (compile catalog {} {} "" selections).document
    ({} : Hooks).fragment = none ∧
      isMatched [("color", .anyOf ["red"]), ("price", .exact "cheap")] = true ∧
      isMatched [("color", .anyOf ["red", "blue"])] = false ∧
      isMatched [("price", .anyOf ["cheap", "dear"])] = false := by
  intro catalog isCheapRed isMatched
  have hranges : Compile.HasRanges catalog "price" := ⟨by decide, List.cons_ne_nil _ _⟩
  refine ⟨rfl, by decide, Bool.eq_false_iff.2 fun h => ?_, Bool.eq_false_iff.2 fun h => ?_⟩
  · have hpass : Compile.IsFacetPass catalog ["post_date"] { name := "color", kind := .term } :=
      .customFacet (List.mem_singleton_self _) (by simp) fun hranges => absurd hranges.1 (by decide)
    have hblue := ((acceptsDocument_compile_iff catalog {} {} "" _ isCheapRed rfl).1 h).2 _ hpass
      (.anyOf ["red", "blue"]) rfl "blue" (by simp [Selection.values])
    exact absurd hblue (by decide)
  · have hpass : Compile.IsFacetPass catalog ["post_date"]
        { name := "price", kind := .range, predicates := Compile.rangeTable catalog "price" } :=
      .ranged (Or.inl (List.mem_singleton_self _)) (by simp) hranges
    have hdear := ((acceptsDocument_compile_iff catalog {} {} "" _ isCheapRed rfl).1 h).2 _ hpass
      (.anyOf ["cheap", "dear"]) rfl "dear" (by simp [Selection.values])
    exact absurd hdear (by decide)

end Faceted
