import Faceted.Proofs.Query.Reading
import Faceted.Proofs.Search.Meaning

/-!
# Disjunctive selections

A disjunctive selection offers alternatives, and one would expect that a document has to match one
of them. As searches are compiled it has to match them all, since the group of the alternatives
counts as many matches as it has members. So a compiled search matches only documents that meet the
selections, but not all of them: something is lost as soon as a disjunctive selection has two
alternatives that ask for different values.

## Main definitions

* `Selection.IsMet` — the operator of a selection, with any of the values for a disjunctive one
* `Compile.MeetsSelections` — a document meets what is selected under the names of all passes
* `Compile.MatchesAlternatives` — a document matches all values of disjunctive selections
* `Compile.OffersNoChoice` — no disjunctive selection asks for two different values

## Main results

* `Compile.acceptsDocument_iff_meetsSelections` — what a compiled search asks
  for beyond its selections
* `Compile.meetsSelections_of_reject` — a document may lack one alternative and meet the selections
* `acceptsDocument_disjunctive_iff` — when a search matches the documents that meet its selections
-/

namespace Faceted

open Condition Entries

/-- A selection is met if `matched` holds of its value, of all of its values or of any of them, as
its operator says. Nothing selected asks for nothing. -/
def Selection.IsMet (matched : String → Prop) : Selection → Prop
  | .exact value => matched value
  | .allOf values => ∀ value ∈ values, matched value
  | .anyOf values => values ≠ [] → ∃ value ∈ values, matched value

theorem Selection.isMet_of_forall_values {matched : String → Prop} {selection : Selection}
    (h : ∀ value ∈ selection.values, matched value) : selection.IsMet matched := by
  cases selection with
  | exact value => exact h value (List.mem_singleton_self _)
  | allOf values => exact h
  | anyOf values =>
    intro hne
    obtain ⟨value, hvalue⟩ := List.exists_mem_of_ne_nil values hne
    exact ⟨value, hvalue, h value hvalue⟩

/-- To match all values of a selection is to meet it, and beyond that to match all alternatives
if it is disjunctive. -/
theorem Selection.forall_values_iff (matched : String → Prop) (selection : Selection) :
    (∀ value ∈ selection.values, matched value) ↔
      selection.IsMet matched ∧
        ∀ values, selection = .anyOf values → ∀ value ∈ values, matched value := by
  constructor
  · intro h
    refine ⟨isMet_of_forall_values h, ?_⟩
    rintro values rfl
    exact h
  · rintro ⟨hmet, halternatives⟩
    cases selection with
    | exact value =>
      intro other hother
      exact List.mem_singleton.1 hother ▸ hmet
    | allOf values => exact hmet
    | anyOf values => exact halternatives values rfl

namespace Compile

section Selected

variable (catalog : Catalog) (excluded : List String) (selections : Selections)

/-- A document, given by what its leaves say, meets what is selected under
the name of every pass. -/
def MeetsSelections (leaf : Json → Bool) : Prop :=
  ∀ pass, IsFacetPass catalog excluded pass → ∀ selection ∈ get? selections pass.name,
    selection.IsMet fun value => leaf (pass.clause value).toJson = true

/-- A document matches every value of every disjunctive selection. -/
def MatchesAlternatives (leaf : Json → Bool) : Prop :=
  ∀ pass, IsFacetPass catalog excluded pass →
    ∀ values, get? selections pass.name = some (.anyOf values) →
      ∀ value ∈ values, leaf (pass.clause value).toJson = true

/-- All values of a disjunctive selection stand for the same. -/
def OffersNoChoice : Prop :=
  ∀ pass, IsFacetPass catalog excluded pass →
    ∀ values, get? selections pass.name = some (.anyOf values) →
      ∀ one ∈ values, ∀ other ∈ values, pass.valueOf one = pass.valueOf other

end Selected

variable {catalog : Catalog} {excluded : List String} {selections : Selections} {leaf : Json → Bool}

/-- Without a choice there is nothing to lose: one value matched is all matched. -/
theorem MeetsSelections.matchesAlternatives (h : MeetsSelections catalog excluded selections leaf)
    (hchoice : OffersNoChoice catalog excluded selections) :
    MatchesAlternatives catalog excluded selections leaf := by
  intro pass hpass values hvalues value hvalue
  obtain ⟨one, hone, hmatched⟩ := h pass hpass _ hvalues (List.ne_nil_of_mem hvalue)
  rwa [Pass.clause, hchoice pass hpass values hvalues value hvalue one hone]

/-- The predicates of a pass are determined by its name and kind. -/
theorem IsFacetPass.predicates_eq {pass : Pass} (h : IsFacetPass catalog excluded pass) :
    pass.predicates = match pass.kind with
      | .term => []
      | .range => rangeTable catalog pass.name := by
  cases h <;> rfl

theorem IsFacetPass.eq_of_kind_eq {pass other : Pass} (h : IsFacetPass catalog excluded pass)
    (h' : IsFacetPass catalog excluded other) (hname : pass.name = other.name)
    (hkind : pass.kind = other.kind) : pass = other := by
  have hpredicates : pass.predicates = other.predicates := by
    rw [h.predicates_eq, h'.predicates_eq, hname, hkind]
  obtain ⟨name, kind, predicates⟩ := pass
  obtain ⟨name', kind', predicates'⟩ := other
  rw [Pass.mk.injEq]
  exact ⟨hname, hkind, hpredicates⟩

/-- A document that matches everything but one alternative of a disjunctive selection still meets
all selections, if another alternative asks for something else. -/
theorem meetsSelections_of_reject {pass : Pass} (hpass : IsFacetPass catalog excluded pass)
    {values : List String} (hvalues : get? selections pass.name = some (.anyOf values))
    {one rejected : String} (hone : one ∈ values) (hne : pass.valueOf one ≠ pass.valueOf rejected)
    (hleaf : ∀ json, json ≠ (pass.clause rejected).toJson → leaf json = true) :
    MeetsSelections catalog excluded selections leaf := by
  intro other hother selection hselection
  by_cases hsame : other.name = pass.name ∧ other.kind = pass.kind
  · -- The pass of the rejected alternative itself is met by the other alternative.
    obtain rfl := hother.eq_of_kind_eq hpass hsame.1 hsame.2
    obtain rfl := Option.some.inj (hvalues.symm.trans hselection)
    intro _
    refine ⟨one, hone, hleaf _ fun heq => ?_⟩
    exact hne (congrArg Clause.value (Clause.toJson_injective heq))
  · refine Selection.isMet_of_forall_values fun value _ => hleaf _ fun heq => ?_
    have hclause := Clause.toJson_injective heq
    exact hsame ⟨congrArg Clause.field hclause, congrArg Clause.kind hclause⟩

/-- A compiled search without a fragment matches the documents that meet its selections and, beyond
that, match all alternatives. -/
theorem acceptsDocument_iff_meetsSelections (catalog : Catalog) (hooks : Hooks)
    (tenant : TenantSettings) (text : String) (selections : Selections)
    (hfragment : hooks.fragment = none) (leaf : Json → Bool) :
    acceptsDocument leaf (compile catalog hooks tenant text selections).document = true ↔
      (∀ clause ∈ (compile catalog hooks tenant text selections).fullText,
        leaf clause.toJson = true) ∧
        MeetsSelections catalog (hooks.applyExcludedFields defaultExcluded) selections leaf ∧
        MatchesAlternatives catalog (hooks.applyExcludedFields defaultExcluded) selections
          leaf := by
  have gathered :=
    Pass.forall_gathered_iff (passes catalog (hooks.applyExcludedFields defaultExcluded))
      selections fun clause => leaf clause.toJson = true
  rw [document_compile catalog hooks tenant text selections hfragment, acceptsDocument_sections_iff]
  refine and_congr Iff.rfl (gathered.trans ?_)
  -- Required or gathered, all values are to be matched, which is split by the operators.
  simp only [Selection.forall_values_iff, mem_passes_iff]
  constructor
  · intro h
    refine ⟨fun pass hpass selection hselection => (h pass hpass selection hselection).1, ?_⟩
    intro pass hpass values hvalues
    exact (h pass hpass _ hvalues).2 values rfl
  · rintro ⟨hmeets, halternatives⟩ pass hpass selection hselection
    refine ⟨hmeets pass hpass selection hselection, ?_⟩
    rintro values rfl
    exact halternatives pass hpass values hselection

end Compile

/-- A search without a fragment matches a document if its text clause does, if the selections under
the names of all passes are met, each as its operator says, and if beyond that the document matches
all alternatives of the disjunctive ones. So the operators alone say what is matched, whatever the
leaves say, exactly if no disjunctive selection offers a choice. -/
theorem acceptsDocument_disjunctive_iff (catalog : Catalog) (hooks : Hooks)
    (tenant : TenantSettings) (text : String) (selections : Selections)
    (hfragment : hooks.fragment = none) :
    let query := compile catalog hooks tenant text selections
    let excluded := hooks.applyExcludedFields Compile.defaultExcluded
    let matchesText (leaf : Json → Bool) : Prop :=
      ∀ clause ∈ query.fullText, leaf clause.toJson = true
    (∀ leaf, acceptsDocument leaf query.document = true ↔
        matchesText leaf ∧ Compile.MeetsSelections catalog excluded selections leaf ∧
          Compile.MatchesAlternatives catalog excluded selections leaf) ∧
      ((∀ leaf, acceptsDocument leaf query.document = true ↔
          matchesText leaf ∧ Compile.MeetsSelections catalog excluded selections leaf) ↔
        Compile.OffersNoChoice catalog excluded selections) := by
  intro query excluded matchesText
  have meaning :=
    Compile.acceptsDocument_iff_meetsSelections catalog hooks tenant text selections hfragment
  refine ⟨meaning, fun hoperators => ?_, fun hchoice leaf => ?_⟩
  · intro pass hpass values hvalues one hone rejected hrejected
    by_contra hne
    classical
    -- The document that lacks one alternative and nothing else meets the selections.
    let leaf : Json → Bool := fun json => decide (json ≠ (pass.clause rejected).toJson)
    have hleaf (json : Json) : leaf json = true ↔ json ≠ (pass.clause rejected).toJson := by
      simp [leaf]
    have hmeets := Compile.meetsSelections_of_reject hpass hvalues hone hne fun json =>
      (hleaf json).2
    have htext : matchesText leaf := fun clause _ => (hleaf _).2 (clause.toJson_ne_toJson _)
    have haccepted := (hoperators leaf).2 ⟨htext, hmeets⟩
    have halternatives := ((meaning leaf).1 haccepted).2.2
    exact (hleaf _).1 (halternatives pass hpass values hvalues rejected hrejected) rfl
  · rw [meaning leaf]
    refine and_congr_right fun _ => and_iff_left_of_imp fun hmeets => ?_
    exact hmeets.matchesAlternatives hchoice

/-- A single color that is selected disjunctively is matched as its operator says,
and two colors are not. -/
theorem acceptsDocument_disjunctive_iff_colors :
    let catalog := ({ customFacets := ["color"] } : CatalogTable).toCatalog
    let query (colors : List String) := compile catalog {} {} "" [("color", .anyOf colors)]
    let asSelected (colors : List String) (leaf : Json → Bool) : Prop :=
      (∀ clause ∈ (query colors).fullText, leaf clause.toJson = true) ∧
        Compile.MeetsSelections catalog ["post_date"] [("color", .anyOf colors)] leaf
    ({} : Hooks).fragment = none ∧
      (∀ leaf, acceptsDocument leaf (query ["red"]).document = true ↔ asSelected ["red"] leaf) ∧
      ¬ ∀ leaf, acceptsDocument leaf (query ["red", "blue"]).document = true ↔
        asSelected ["red", "blue"] leaf := by
  intro catalog query asSelected
  refine ⟨rfl, ?_, fun hoperators => ?_⟩
  · refine (acceptsDocument_disjunctive_iff catalog {} {} "" [("color", .anyOf ["red"])] rfl).2.2 ?_
    intro pass hpass values hvalues one hone other hother
    obtain ⟨name, hname, -, rfl⟩ := Compile.isFacetPass_customFacets_iff.1 hpass
    obtain rfl := List.mem_singleton.1 hname
    obtain rfl : ["red"] = values := Selection.anyOf.inj (Option.some.inj hvalues)
    rw [List.mem_singleton.1 hone, List.mem_singleton.1 hother]
  · have hchoice :=
      (acceptsDocument_disjunctive_iff catalog {} {} "" [("color", .anyOf ["red", "blue"])] rfl).2.1
        hoperators
    have hpass : Compile.IsFacetPass catalog ["post_date"] { name := "color", kind := .term } :=
      Compile.isFacetPass_customFacets_iff.2 ⟨"color", List.mem_singleton_self _, by decide, rfl⟩
    have hequal := hchoice _ hpass ["red", "blue"] rfl "red" (by simp) "blue" (by simp)
    exact absurd (Json.text.inj hequal) (by decide)

/-- A document that is red and not blue meets a selection of any of red and
blue, and is not matched. -/
theorem acceptsDocument_red_of_any :
    let catalog := ({ customFacets := ["color"] } : CatalogTable).toCatalog
    let selections : Selections := [("color", .anyOf ["red", "blue"])]
    let query := compile catalog {} {} "" selections
    let isRed : Json → Bool :=
      fun leaf => (leaf.at? ["term", "color"]).bind Json.text? == some "red"
    ({} : Hooks).fragment = none ∧ query.fullText = none ∧
      Compile.MeetsSelections catalog ["post_date"] selections isRed ∧
      acceptsDocument isRed query.document = false := by
  intro catalog selections query isRed
  refine ⟨rfl, rfl, fun pass hpass selection hselection => ?_, by decide⟩
  obtain ⟨name, hname, -, rfl⟩ := Compile.isFacetPass_customFacets_iff.1 hpass
  obtain rfl := List.mem_singleton.1 hname
  obtain rfl := Option.some.inj hselection
  exact fun _ => ⟨"red", by simp, by decide⟩

end Faceted
