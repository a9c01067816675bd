import Faceted.Proofs.Search.Clauses
import Faceted.Proofs.Search.Independence

/-!
# Excluded names

A name that is excluded is neither scored nor filtered on, so that it does not matter what a catalog
says about it beyond listing it, nor what is selected under it. One name is treated apart. The type
of documents, if it is a field of the catalog, is filtered on after all others and without a look at
what is excluded, so that a selection under it always counts.

## Main definitions

* `Catalog.AgreeOff` — two catalogs list the same, and differ in what they
  say about one name at most
* `Compile.listedPasses` — the passes without the one on the type of documents
* `Compile.documentTypeClauses` — the clauses of that pass

## Main results

* `CatalogTable.agreeOff_setWeight`, `CatalogTable.agreeOff_setRanges`,
  `CatalogTable.agreeOff_markNotAnalyzed` — building a catalog changes one name at a time
* `Catalog.AgreeOff.scored`, `Catalog.AgreeOff.listedClauses` — an excluded name is not read
* `Catalog.AgreeOff.compile_eq_iff` — only the clauses on the type of documents can differ
* `compile_excluded_eq_iff` — what an excluded name can change
-/

namespace Faceted

open Entries

/-- Two catalogs list the same names in the same order, and differ at most in what they say about
one of them: its weights, whether it is numeric and analyzed, and its ranges. -/
structure Catalog.AgreeOff (name : String) (first second : Catalog) : Prop where
  fields : first.fields = second.fields
  metaFields : first.metaFields = second.metaFields
  taxonomies : first.taxonomies = second.taxonomies
  customFacets : first.customFacets = second.customFacets
  fuzziness : first.fuzziness = second.fuzziness
  relevance : first.relevance = second.relevance
  weight : ∀ kind other, other ≠ name → first.weight kind other = second.weight kind other
  isNumeric : ∀ other, other ≠ name → first.isNumeric other = second.isNumeric other
  isNotAnalyzed : ∀ other, other ≠ name → first.isNotAnalyzed other = second.isNotAnalyzed other
  ranges : ∀ other, other ≠ name → first.ranges other = second.ranges other

theorem Catalog.AgreeOff.refl (name : String) (catalog : Catalog) : catalog.AgreeOff name catalog :=
  ⟨rfl, rfl, rfl, rfl, rfl, rfl, fun _ _ _ => rfl, fun _ _ => rfl, fun _ _ => rfl, fun _ _ => rfl⟩

theorem Catalog.AgreeOff.trans {name : String} {first second third : Catalog}
    (h : first.AgreeOff name second) (h' : second.AgreeOff name third) :
    first.AgreeOff name third where
  fields := h.fields.trans h'.fields
  metaFields := h.metaFields.trans h'.metaFields
  taxonomies := h.taxonomies.trans h'.taxonomies
  customFacets := h.customFacets.trans h'.customFacets
  fuzziness := h.fuzziness.trans h'.fuzziness
  relevance := h.relevance.trans h'.relevance
  weight kind other hother := (h.weight kind other hother).trans (h'.weight kind other hother)
  isNumeric other hother := (h.isNumeric other hother).trans (h'.isNumeric other hother)
  isNotAnalyzed other hother := (h.isNotAnalyzed other hother).trans (h'.isNotAnalyzed other hother)
  ranges other hother := (h.ranges other hother).trans (h'.ranges other hother)

/-! ### Building a catalog -/

namespace CatalogTable

variable (table : CatalogTable) (name : String)

theorem contains_concat_of_ne (names : List String) {other : String} (h : other ≠ name) :
    (names ++ [name]).contains other = names.contains other := by
  rw [List.contains_append, List.contains_cons, beq_eq_false_iff_ne.2 h, List.contains_nil,
    Bool.or_false, Bool.or_false]

theorem agreeOff_setWeight (kind : FieldKind) (weight : Float) :
    table.toCatalog.AgreeOff name (table.setWeight kind name weight).toCatalog :=
  { Catalog.AgreeOff.refl name table.toCatalog with
    weight := by
      intro other listed hlisted
      by_cases hkind : other = kind
      · simp [toCatalog, setWeight, hkind, get?_put_of_ne _ _ hlisted]
      · simp [toCatalog, setWeight, hkind] }

theorem agreeOff_setRanges (ranges : List (String × NumericRange)) :
    table.toCatalog.AgreeOff name (table.setRanges name ranges).toCatalog :=
  { Catalog.AgreeOff.refl name table.toCatalog with
    isNumeric := fun _ hother => (contains_concat_of_ne name table.numeric hother).symm
    ranges := by
      intro other hother
      simp [toCatalog, setRanges, get?_put_of_ne _ _ hother] }

theorem agreeOff_markNotAnalyzed :
    table.toCatalog.AgreeOff name (table.markNotAnalyzed name).toCatalog :=
  { Catalog.AgreeOff.refl name table.toCatalog with
    isNotAnalyzed := fun _ hother => (contains_concat_of_ne name table.notAnalyzed hother).symm }

end CatalogTable

/-! ### The passes on excluded names -/

namespace Compile

variable (catalog : Catalog) (excluded : List String) (selections : Selections)

/-- The passes on taxonomies and on listed names, which are not excluded. -/
def listedPasses : List Pass :=
  catalog.taxonomies.map (fun name => { name := name, kind := .term })
    ++ (listings catalog excluded).filterMap (pass? catalog)

/-- The clauses for what is selected under the type of documents. -/
def documentTypeClauses : FacetClauses :=
  FacetClauses.concat ((documentTypePass catalog).map fun pass => pass.clauses selections)

theorem facetClauses_eq_append :
    facetClauses catalog excluded selections =
      FacetClauses.concat ((listedPasses catalog excluded).map fun pass => pass.clauses selections)
        ++ documentTypeClauses catalog selections := by
  have passes_eq :
      passes catalog excluded = listedPasses catalog excluded ++ documentTypePass catalog := rfl
  rw [facetClauses, passes_eq, List.map_append, FacetClauses.concat_append, documentTypeClauses]

theorem documentTypeClauses_eq_ite :
    documentTypeClauses catalog selections =
      if documentTypeField ∈ catalog.fields then
        ⟨(selections.required documentTypeField).map fun label =>
            ⟨.term, documentTypeField, .text label⟩,
          (selections.alternatives documentTypeField).map fun label =>
            ⟨.term, documentTypeField, .text label⟩⟩
      else .none := by
  have pass : ({ name := documentTypeField, kind := .term } : Pass) =
      passOf catalog (documentTypeField, .term) := rfl
  rw [documentTypeClauses, documentTypePass]
  by_cases hfield : documentTypeField ∈ catalog.fields
  · rw [if_pos hfield, if_pos (List.contains_iff_mem.2 hfield), pass, FacetClauses.concat_eq]
    simp only [List.map_cons, List.map_nil, List.flatMap_singleton, clauses_passOf]
    rfl
  · rw [if_neg hfield, if_neg (mt List.contains_iff_mem.1 hfield)]
    rfl

variable {catalog excluded selections} {name : String}

/-- An excluded name has no pass, unless it is a taxonomy. -/
theorem name_ne_of_mem_listedPasses (hexcluded : name ∈ excluded)
    (htaxonomy : name ∉ catalog.taxonomies) {pass : Pass}
    (hpass : pass ∈ listedPasses catalog excluded) : pass.name ≠ name := by
  rcases List.mem_append.1 hpass with htaxonomies | hlistings
  · obtain ⟨listed, hlisted, rfl⟩ := List.mem_map.1 htaxonomies
    rintro rfl
    exact htaxonomy hlisted
  · obtain ⟨⟨kind, listed⟩, hlisted, hsome⟩ := List.mem_filterMap.1 hlistings
    have hkept := (mem_listings_iff.1 hlisted).2
    -- By ranges or by terms, the pass has the name that is listed.
    have hname : pass.name = listed := by
      rcases pass?_eq_some_iff.1 hsome with ⟨-, rfl⟩ | ⟨-, -, rfl⟩
      · rfl
      · rfl
    rintro rfl
    exact hkept (hname ▸ hexcluded)

/-- The type of documents is filtered on by terms only. -/
theorem filter_documentTypeClauses :
    ((documentTypeClauses catalog selections).alternatives.filter fun clause =>
        clause.kind = .term) =
      (documentTypeClauses catalog selections).alternatives := by
  rw [List.filter_eq_self, documentTypeClauses_eq_ite]
  intro clause hclause
  split at hclause
  · obtain ⟨label, -, rfl⟩ := List.mem_map.1 hclause
    rfl
  · exact absurd hclause List.not_mem_nil

/-- The clauses on the type of documents tell the values that are selected under it. -/
theorem documentTypeClauses_eq_iff {first second : Catalog} (hfields : first.fields = second.fields)
    {before after : Selections} :
    documentTypeClauses first before = documentTypeClauses second after ↔
      (documentTypeField ∈ first.fields →
        before.required documentTypeField = after.required documentTypeField ∧
          before.alternatives documentTypeField = after.alternatives documentTypeField) := by
  have injective :
      Function.Injective fun label => (⟨.term, documentTypeField, .text label⟩ : Clause) :=
    fun _ _ heq => Json.text.inj (congrArg Clause.value heq)
  rw [documentTypeClauses_eq_ite, documentTypeClauses_eq_ite, ← hfields]
  split
  next hfield =>
    rw [FacetClauses.mk.injEq, injective.list_map.eq_iff, injective.list_map.eq_iff,
      imp_iff_right hfield]
  next hfield => simp [hfield]

end Compile

/-! ### What is compiled -/

namespace Catalog.AgreeOff

open Compile

variable {name : String} {first second : Catalog} {excluded : List String}

theorem listings (h : first.AgreeOff name second) :
    Compile.listings first excluded = Compile.listings second excluded := by
  rw [Compile.listings, Compile.listings, h.fields, h.metaFields, h.customFacets]

theorem pass? (h : first.AgreeOff name second) {entry : FieldKind × String}
    (hentry : entry.2 ≠ name) : Compile.pass? first entry = Compile.pass? second entry := by
  have ranges : selectableRanges first entry.2 = selectableRanges second entry.2 := by
    rw [selectableRanges, selectableRanges, h.isNumeric _ hentry, h.ranges _ hentry]
  rw [Compile.pass?, Compile.pass?, ranges]

/-- The fields that a text is matched against do not depend on an excluded name. -/
theorem scored (h : first.AgreeOff name second) (hexcluded : name ∈ excluded)
    (htaxonomy : name ∉ first.taxonomies) (language search : String) :
    Compile.scored first excluded language search =
      Compile.scored second excluded language search := by
  -- Taxonomies and listings are other names than the excluded one.
  have taxonomies : first.taxonomies.filterMap (scoredTaxonomy? first) =
      second.taxonomies.filterMap (scoredTaxonomy? second) := by
    rw [← h.taxonomies]
    refine List.filterMap_congr fun listed hlisted => ?_
    have hne : listed ≠ name := fun heq => htaxonomy (heq ▸ hlisted)
    rw [scoredTaxonomy?, scoredTaxonomy?, taxonomyWeight, taxonomyWeight, h.weight _ listed hne]
  have listings :
      (Compile.listings first excluded).filterMap (scoredListing? first language search) =
      (Compile.listings second excluded).filterMap (scoredListing? second language search) := by
    rw [← h.listings]
    refine List.filterMap_congr fun entry hentry => ?_
    have hne : entry.2 ≠ name := fun heq => (mem_listings_iff.1 hentry).2 (heq ▸ hexcluded)
    rw [scoredListing?, scoredListing?, h.weight _ _ hne, h.isNotAnalyzed _ hne]
  rw [Compile.scored, Compile.scored, taxonomies, listings]

theorem listedPasses (h : first.AgreeOff name second) (hexcluded : name ∈ excluded) :
    Compile.listedPasses first excluded = Compile.listedPasses second excluded := by
  have passes : (Compile.listings first excluded).filterMap (Compile.pass? first) =
      (Compile.listings second excluded).filterMap (Compile.pass? second) := by
    rw [← h.listings]
    refine List.filterMap_congr fun entry hentry => h.pass? fun heq => ?_
    exact (mem_listings_iff.1 hentry).2 (heq ▸ hexcluded)
  rw [Compile.listedPasses, Compile.listedPasses, h.taxonomies, passes]

/-- The clauses of all passes but the one on the type of documents do not depend on an excluded
name, nor on what is selected under it. -/
theorem listedClauses (h : first.AgreeOff name second) (hexcluded : name ∈ excluded)
    (htaxonomy : name ∉ first.taxonomies) {before after : Selections}
    (hselections : ∀ other, other ≠ name → get? before other = get? after other) :
    ((Compile.listedPasses first excluded).map fun pass => pass.clauses before) =
      (Compile.listedPasses second excluded).map fun pass => pass.clauses after := by
  rw [← h.listedPasses hexcluded]
  refine List.map_congr_left fun pass hpass => Pass.clauses_congr (hselections _ ?_)
  exact name_ne_of_mem_listedPasses hexcluded htaxonomy hpass

section Compile

variable (hooks : Hooks) (tenant : TenantSettings) (text : String) {before after : Selections}

/-- The clauses are all that an excluded name can change in a search. -/
theorem compile_eq_of_facetClauses_eq (h : first.AgreeOff name second)
    (hexcluded : name ∈ hooks.applyExcludedFields defaultExcluded)
    (htaxonomy : name ∉ first.taxonomies)
    (hclauses : facetClauses first (hooks.applyExcludedFields defaultExcluded) before =
      facetClauses second (hooks.applyExcludedFields defaultExcluded) after) :
    compile first hooks tenant text before = compile second hooks tenant text after := by
  have scored := h.scored hexcluded htaxonomy (hooks.applyLanguage defaultLanguage)
    (Text.raiseOperators text)
  have fullText : hookedFullText first hooks text = hookedFullText second hooks text := by
    simp only [hookedFullText, fullTextDraft, scored, h.relevance, h.fuzziness]
  have aggregations : Compile.aggregations first tenant = Compile.aggregations second tenant := by
    rw [Compile.aggregations, Compile.aggregations, h.taxonomies]
  have draft : draft first hooks tenant text before = draft second hooks tenant text after := by
    simp only [Compile.draft, hclauses, scored, fullText, aggregations]
  rw [compile, compile, draft]

/-- Only by its clauses on the type of documents can a search depend on an excluded name. -/
theorem compile_eq_iff (h : first.AgreeOff name second)
    (hexcluded : name ∈ hooks.applyExcludedFields defaultExcluded)
    (htaxonomy : name ∉ first.taxonomies)
    (hselections : ∀ other, other ≠ name → get? before other = get? after other) :
    compile first hooks tenant text before = compile second hooks tenant text after ↔
      documentTypeClauses first before = documentTypeClauses second after := by
  have listed := h.listedClauses hexcluded htaxonomy hselections
  have ofFirst := facetClauses_eq_append first (hooks.applyExcludedFields defaultExcluded) before
  have ofSecond := facetClauses_eq_append second (hooks.applyExcludedFields defaultExcluded) after
  rw [listed] at ofFirst
  constructor
  · intro heq
    have hrequired :
        (facetClauses first (hooks.applyExcludedFields defaultExcluded) before).required =
        (facetClauses second (hooks.applyExcludedFields defaultExcluded) after).required :=
      congrArg Query.required heq
    have hgroups :
        ClauseGroup.gather
            (facetClauses first (hooks.applyExcludedFields defaultExcluded) before).alternatives =
          ClauseGroup.gather
            (facetClauses second (hooks.applyExcludedFields defaultExcluded) after).alternatives :=
      congrArg Query.groups heq
    -- The groups tell the terms in their order, and those on the type of documents come last.
    have hterms := ClauseGroup.filter_eq_of_gather_eq hgroups .term
    rw [ofFirst, ofSecond, FacetClauses.required_append, FacetClauses.required_append,
      List.append_cancel_left_eq] at hrequired
    rw [ofFirst, ofSecond, FacetClauses.alternatives_append, FacetClauses.alternatives_append,
      List.filter_append, List.filter_append, List.append_cancel_left_eq,
      filter_documentTypeClauses, filter_documentTypeClauses] at hterms
    exact congrArg₂ FacetClauses.mk hrequired hterms
  · intro hdocumentType
    refine h.compile_eq_of_facetClauses_eq hooks tenant text hexcluded htaxonomy ?_
    rw [ofFirst, ofSecond, hdocumentType]

end Compile

end Catalog.AgreeOff

theorem Selections.required_congr {before after : Selections} {facet : String}
    (h : get? before facet = get? after facet) : before.required facet = after.required facet := by
  rw [required, required, h]

theorem Selections.alternatives_congr {before after : Selections} {facet : String}
    (h : get? before facet = get? after facet) :
    before.alternatives facet = after.alternatives facet := by
  rw [alternatives, alternatives, h]

/-- A name that is excluded and no taxonomy cannot change a compiled search: neither by its weights,
its ranges and whether it is numeric or analyzed, nor by what is selected under it. The one
exception is the type of documents if it is a field of the catalog. What the catalog says about it
does not matter either, but the values selected under it do, whether or not it is excluded. -/
theorem compile_excluded_eq_iff {name : String} {first second : Catalog} {before after : Selections}
    (hooks : Hooks) (tenant : TenantSettings) (text : String)
    (hexcluded : name ∈ hooks.applyExcludedFields Compile.defaultExcluded)
    (htaxonomy : name ∉ first.taxonomies) (hcatalog : first.AgreeOff name second)
    (hselections : ∀ other, other ≠ name → get? before other = get? after other) :
    compile first hooks tenant text before = compile second hooks tenant text after ↔
      (name = Compile.documentTypeField → name ∈ first.fields →
        before.required name = after.required name ∧
          before.alternatives name = after.alternatives name) := by
  rw [hcatalog.compile_eq_iff hooks tenant text hexcluded htaxonomy hselections,
    Compile.documentTypeClauses_eq_iff hcatalog.fields]
  constructor
  · rintro hdocumentType rfl
    exact hdocumentType
  · intro hdocumentType hfield
    -- If the excluded name is another one, then the same is selected under the type of documents.
    by_cases hname : Compile.documentTypeField = name
    · subst hname
      exact hdocumentType rfl hfield
    · have hselected := hselections _ hname
      exact ⟨Selections.required_congr hselected, Selections.alternatives_congr hselected⟩

/-- An excluded color may be given ranges and a weight, be left unanalyzed and be selected: the
search stays the same. -/
theorem compile_excluded_eq_iff_color :
    let table : CatalogTable := { fields := ["title", "post_type"], customFacets := ["color"] }
    let ranged := table.setRanges "color" [("warm", ⟨some (.integer 3), none⟩)]
    let weighted := (ranged.setWeight .customFacet "color" 2.0).markNotAnalyzed "color"
    let hooks : Hooks := { excludedFields := some fun fields => fields ++ ["color"] }
    let selections : Selections := [("color", .anyOf ["warm", "red"])]
    "color" ∈ hooks.applyExcludedFields Compile.defaultExcluded ∧
      "color" ∉ table.toCatalog.taxonomies ∧ table.toCatalog.AgreeOff "color" weighted.toCatalog ∧
      (∀ other, other ≠ "color" → get? ([] : Selections) other = get? selections other) ∧
      compile table.toCatalog hooks {} "red shoes" [] =
        compile weighted.toCatalog hooks {} "red shoes" selections := by
  intro table ranged weighted hooks selections
  have hexcluded : "color" ∈ hooks.applyExcludedFields Compile.defaultExcluded := by decide
  have htaxonomy : "color" ∉ table.toCatalog.taxonomies := List.not_mem_nil
  have hcatalog : table.toCatalog.AgreeOff "color" weighted.toCatalog :=
    ((table.agreeOff_setRanges "color" _).trans (ranged.agreeOff_setWeight "color" _ _)).trans
      (CatalogTable.agreeOff_markNotAnalyzed _ "color")
  have hselections (other : String) (hother : other ≠ "color") :
      get? ([] : Selections) other = get? selections other :=
    (get?_cons_of_ne _ _ (Ne.symm hother)).symm
  have hcolor : "color" ≠ Compile.documentTypeField := by decide
  exact ⟨hexcluded, htaxonomy, hcatalog, hselections,
    (compile_excluded_eq_iff hooks {} "red shoes" hexcluded htaxonomy hcatalog hselections).2
      fun heq => absurd heq hcolor⟩

/-- The type of documents is filtered on although it is excluded. -/
theorem compile_excluded_documentType_ne :
    let catalog := ({ fields := ["post_type"] } : CatalogTable).toCatalog
    let hooks : Hooks := { excludedFields := some fun fields => fields ++ ["post_type"] }
    let selections : Selections := [("post_type", .exact "page")]
    "post_type" ∈ hooks.applyExcludedFields Compile.defaultExcluded ∧
      "post_type" ∉ catalog.taxonomies ∧ catalog.AgreeOff "post_type" catalog ∧
      (∀ other, other ≠ "post_type" → get? ([] : Selections) other = get? selections other) ∧
      compile catalog hooks {} "" [] ≠ compile catalog hooks {} "" selections := by
  intro catalog hooks selections
  refine ⟨by decide, List.not_mem_nil, .refl _ _, fun other hother => ?_, fun heq => ?_⟩
  · exact (get?_cons_of_ne _ _ (Ne.symm hother)).symm
  · have hlength := congrArg (fun query : Query => query.required.length) heq
    exact absurd hlength (by decide)

end Faceted
