import Faceted.Proofs.Decimal.Sign
import Faceted.Proofs.Decimal.Tenths
import Faceted.Proofs.Search.Clauses
import Faceted.Proofs.Text.Capitals

/-!
# What a text is matched against

What a query says about its text is decided in several places, and partly on the text as it was
given and partly on the text with its operators in capitals. It is consistent all the same: there is
a text clause exactly if there is a field to match, the fields of the clause are the scored ones in
order, and a text that asks for fuzzy matching is matched against plain names throughout.

A field counts by its weight. A taxonomy is scored if its weight is above zero, all other names if
theirs is not at most zero. The two tests agree on numbers; a weight that is not a number is scored
under a name that is listed, and is not under a taxonomy.

## Main definitions

* `Compile.scoredName` — the name under which a listed name is scored
* `Compile.scoredTaxonomies`, `Compile.scoredOf` — the taxonomies that are
  scored, and the names of a kind

## Main results

* `Compile.scored_eq` — the fields that a text is matched against, in order
* `compile_fullText_of_no_hook` — the text clause of a query
* `compile_text_consistent` — the parts of a query that depend on its text
* `compile_scored_positive_iff` — when all weights are above zero
-/

namespace Faceted

open Text

namespace Compile

section Scored

variable (catalog : Catalog) (excluded : List String) (language text : String)

/-- The name under which a listed name is scored: its own if the text asks for fuzzy matching or the
field is not analyzed, and otherwise that of the field as analyzed for the language. -/
def scoredName (name : String) : String :=
  if fuzzyMark ∈ text.toList ∨ catalog.isNotAnalyzed name = true then name
  else name ++ "." ++ language

/-- The taxonomies that are scored, each by the names of its terms and with its own weight. A weight
of zero counts as one. -/
def scoredTaxonomies : List WeightedField :=
  let weight (name : String) : Float :=
    if catalog.weight .taxonomy name == 0.0 then 1.0 else catalog.weight .taxonomy name
  (catalog.taxonomies.filter fun name => 0.0 < weight name).map fun name =>
    ⟨name ++ "_name", weight name⟩

theorem scoredTaxonomies_eq :
    scoredTaxonomies catalog =
      (catalog.taxonomies.filter fun name => 0.0 < taxonomyWeight catalog name).map fun name =>
        ⟨taxonomyField name, taxonomyWeight catalog name⟩ := rfl

/-- The names of one kind that are scored, each with its weight of this kind. -/
def scoredOf (kind : FieldKind) (names : List String) : List WeightedField :=
  ((kept excluded names).filter fun name => ¬ catalog.weight kind name ≤ 0.0).map fun name =>
    ⟨scoredName catalog language text name, catalog.weight kind name⟩

theorem scoredName_eq_self_iff (name : String) :
    scoredName catalog language text name = name ↔
      fuzzyMark ∈ text.toList ∨ catalog.isNotAnalyzed name = true := by
  rw [scoredName]
  split
  next h => exact iff_of_true rfl h
  next h =>
    refine iff_of_false (fun heq => ?_) h
    -- The name of the analyzed field is longer.
    have hlength := congrArg String.length heq
    rw [String.length_append, String.length_append] at hlength
    have hdot : ".".length = 1 := rfl
    omega

theorem taxonomyWeight_of_pos {catalog : Catalog} {name : String}
    (h : 0.0 < catalog.weight .taxonomy name) :
    taxonomyWeight catalog name = catalog.weight .taxonomy name := by
  have hzero : ¬ (catalog.weight .taxonomy name == 0.0) = true := by
    rw [Decimal.beq_zero_of_pos h]
    exact Bool.false_ne_true
  exact if_neg hzero

theorem taxonomyWeight_of_zero {catalog : Catalog} {name : String}
    (h : (catalog.weight .taxonomy name == 0.0) = true) : taxonomyWeight catalog name = 1.0 :=
  if_pos h

/-- Whether the text asks for fuzzy matching can be told before and after its operators are put in
capitals. -/
theorem scoredListing?_eq (kind : FieldKind) (name : String) :
    scoredListing? catalog language (raiseOperators text) (kind, name) =
      if ¬ catalog.weight kind name ≤ 0.0 then
        some ⟨scoredName catalog language text name, catalog.weight kind name⟩
      else none := by
  have hfuzzy : (isFuzzy (raiseOperators text) || catalog.isNotAnalyzed name) = true ↔
      fuzzyMark ∈ text.toList ∨ catalog.isNotAnalyzed name = true := by
    rw [isFuzzy_raiseOperators, Bool.or_eq_true, isFuzzy, List.contains_iff_mem]
  rw [scoredListing?, scoredName]
  by_cases hweight : catalog.weight kind name ≤ 0.0
  · simp [hweight]
  · simp only [hweight, hfuzzy, if_false, not_false_eq_true, if_true]
    split <;> rfl

theorem filterMap_scoredTaxonomy? :
    catalog.taxonomies.filterMap (scoredTaxonomy? catalog) = scoredTaxonomies catalog :=
  filterMap_ite _ _ catalog.taxonomies

theorem filterMap_scoredListing? (kind : FieldKind) (names : List String) :
    ((kept excluded names).filterMap fun name =>
        scoredListing? catalog language (raiseOperators text) (kind, name)) =
      scoredOf catalog excluded language text kind names := by
  simp only [scoredListing?_eq]
  exact filterMap_ite _ _ (kept excluded names)

/-- An empty text is matched against nothing. Any other is matched against the taxonomies first, and
then kind by kind against the listed names, each kind in the order of the catalog. -/
theorem scored_eq :
    scored catalog excluded language (raiseOperators text) =
      if text = "" then []
      else scoredTaxonomies catalog
        ++ scoredOf catalog excluded language text .field catalog.fields
        ++ scoredOf catalog excluded language text .metaField catalog.metaFields
        ++ scoredOf catalog excluded language text .customFacet catalog.customFacets := by
  have hempty : (raiseOperators text).isEmpty = true ↔ text = "" := by
    rw [String.isEmpty_iff, raiseOperators_eq_empty_iff]
  rw [scored, filterMap_scoredTaxonomy?, filterMap_listings, filterMap_scoredListing?,
    filterMap_scoredListing?, filterMap_scoredListing?]
  simp only [hempty, List.append_assoc]

/-- A field that a text is matched against is that of a taxonomy that is scored, or of a listed name
whose weight is not at most zero. -/
theorem mem_scored_iff (field : WeightedField) :
    field ∈ scored catalog excluded language (raiseOperators text) ↔
      text ≠ "" ∧
        ((∃ name ∈ catalog.taxonomies, 0.0 < taxonomyWeight catalog name ∧
            field = ⟨taxonomyField name, taxonomyWeight catalog name⟩) ∨
          ∃ kind name, (kind, name) ∈ listings catalog excluded ∧ ¬ catalog.weight kind name ≤ 0.0 ∧
            field = ⟨scoredName catalog language text name, catalog.weight kind name⟩) := by
  have hempty : (raiseOperators text).isEmpty = true ↔ text = "" := by
    rw [String.isEmpty_iff, raiseOperators_eq_empty_iff]
  rw [scored]
  simp only [hempty]
  split
  next h => simp [h]
  next h =>
    rw [List.mem_append, and_iff_right h, filterMap_scoredTaxonomy?, scoredTaxonomies_eq,
      List.mem_map, List.mem_filterMap]
    simp only [Prod.exists, scoredListing?_eq, List.mem_filter, decide_eq_true_eq, and_assoc,
      Option.ite_none_right_eq_some, Option.some.injEq, eq_comm (a := field)]

end Scored

/-! ### The text clause -/

/-- There is a text clause exactly if there is a field to match, provided that
an empty text has none. -/
theorem fullTextDraft_eq (catalog : Catalog) {text : String} {fields : List WeightedField}
    (hempty : text = "" → fields = []) :
    fullTextDraft catalog text (raiseOperators text) fields =
      if fields = [] then none
      else some
        { fields := fields.map WeightedField.text
          query := withRelevance catalog.relevance (raiseOperators text)
          fuzziness := if fuzzyMark ∈ text.toList then catalog.fuzziness else none } := by
  have hnone : ((raiseOperators text).isEmpty || fields.isEmpty) = true ↔ fields = [] := by
    rw [Bool.or_eq_true, List.isEmpty_iff, String.isEmpty_iff, raiseOperators_eq_empty_iff]
    exact or_iff_right_of_imp hempty
  have hfuzzy : isFuzzy text = true ↔ fuzzyMark ∈ text.toList := List.contains_iff_mem
  rw [fullTextDraft]
  simp only [hnone, hfuzzy]

end Compile

/-- Unless a hook changes it, the text clause has the scored fields, if there are any, and the
fuzziness of the catalog if the text asks for it. -/
theorem compile_fullText_of_no_hook (catalog : Catalog) (hooks : Hooks) (tenant : TenantSettings)
    (text : String) (selections : Selections) (hclause : hooks.fullText = none) :
    let query := compile catalog hooks tenant text selections
    query.fullText =
      if query.scored = [] then none
      else some
        { fields := query.scored.map WeightedField.text
          query := Compile.withRelevance catalog.relevance (raiseOperators text)
          fuzziness := if fuzzyMark ∈ text.toList then catalog.fuzziness else none } := by
  intro query
  have hunchanged : hooks.applyFullText = id := by
    funext clause
    rw [Hooks.applyFullText_of_none hclause, id]
  have hempty : text = "" → query.scored = [] := by
    rintro rfl
    exact (compile_scored catalog hooks tenant "" selections).trans
      (Compile.scored_eq catalog _ _ "")
  rw [← Compile.fullTextDraft_eq catalog hempty]
  refine (compile_fullText catalog hooks tenant text selections).trans ?_
  rw [hunchanged, Option.map_id, id]

/-- The names that are excluded are the default ones, as their hook revises them. -/
theorem Hooks.applyExcludedFields_default (hooks : Hooks) :
    hooks.applyExcludedFields Compile.defaultExcluded =
      hooks.excludedFields.elim ["post_date"] fun revise => revise ["post_date"] := by
  cases hhook : hooks.excludedFields with
  | none => exact applyExcludedFields_of_none hhook _
  | some revise => exact applyExcludedFields_of_some hhook _

/-- The language is the default one, as its hook revises it. -/
theorem Hooks.applyLanguage_default (hooks : Hooks) :
    hooks.applyLanguage Compile.defaultLanguage =
      hooks.language.elim "english" fun revise => revise "english" := by
  cases hhook : hooks.language with
  | none => exact applyLanguage_of_none hhook _
  | some revise => exact applyLanguage_of_some hhook _

/-- A field whose weight is half of a natural number is listed with that half. -/
theorem WeightedField.text_of_half {field : WeightedField} {n : Nat} (hlt : n < 2 ^ 51)
    (hweight : field.weight = Decimal.doubleOfNat n / 2.0) :
    field.text = field.name ++ "^" ++ Decimal.halfText n := by
  rw [WeightedField.text, hweight, Decimal.text_half hlt]

/-- Unless a hook changes the text clause, the parts of a query that depend on its text agree. There
is a text clause exactly if there is a scored field, and its fields are the scored ones in order,
each with its weight behind its name; weights that are whole or half numbers are written as by hand.
An empty text has no scored fields and no highlighting, and any other text is highlighted and
matched against taxonomies, fields, meta fields and custom facets in this order. Listed names are
scored under their own name exactly if the text asks for fuzzy matching or the field is not
analyzed. The fuzziness of the catalog is that of the clause exactly if the text asks for it, so
that it never meets the name of an analyzed field. -/
theorem compile_text_consistent (catalog : Catalog) (hooks : Hooks) (tenant : TenantSettings)
    (text : String) (selections : Selections) (hclause : hooks.fullText = none) :
    let query := compile catalog hooks tenant text selections
    let excluded := hooks.excludedFields.elim ["post_date"] fun revise => revise ["post_date"]
    let language := hooks.language.elim "english" fun revise => revise "english"
    (query.fullText ≠ none ↔ query.scored ≠ []) ∧
      (∀ clause, query.fullText = some clause →
        clause.fields = (query.scored.map fun field =>
          field.name ++ "^" ++ Decimal.Layout.weight.text field.weight) ∧
        ∀ (position n : Nat) (field : WeightedField), query.scored[position]? = some field →
          n < 2 ^ 51 → field.weight = Decimal.doubleOfNat n / 2.0 →
            clause.fields[position]? = some (field.name ++ "^" ++ Decimal.halfText n)) ∧
      (text = "" → query.scored = [] ∧ query.highlight = false) ∧
      (text ≠ "" → query.highlight = true ∧
        query.scored = Compile.scoredTaxonomies catalog
          ++ Compile.scoredOf catalog excluded language text .field catalog.fields
          ++ Compile.scoredOf catalog excluded language text .metaField catalog.metaFields
          ++ Compile.scoredOf catalog excluded language text .customFacet catalog.customFacets) ∧
      (∀ name, Compile.scoredName catalog language text name =
        if '~' ∈ text.toList ∨ catalog.isNotAnalyzed name = true then name
        else name ++ "." ++ language) ∧
      (∀ name, Compile.scoredName catalog language text name = name ↔
        '~' ∈ text.toList ∨ catalog.isNotAnalyzed name = true) ∧
      (∀ value, query.fullText.bind FullText.fuzziness = some value ↔
        query.fullText ≠ none ∧ catalog.fuzziness = some value ∧ '~' ∈ text.toList) ∧
      (query.fullText.bind FullText.fuzziness ≠ none →
        ∀ name, Compile.scoredName catalog language text name = name) := by
  intro query excluded language
  have hscored : query.scored = Compile.scored catalog excluded language (raiseOperators text) := by
    have happlied := compile_scored catalog hooks tenant text selections
    rwa [hooks.applyExcludedFields_default, hooks.applyLanguage_default] at happlied
  have hhighlight : query.highlight = !text.isEmpty :=
    compile_highlight catalog hooks tenant text selections
  have hfullText := compile_fullText_of_no_hook catalog hooks tenant text selections hclause
  have hfuzziness (value : Json) : query.fullText.bind FullText.fuzziness = some value ↔
      query.fullText ≠ none ∧ catalog.fuzziness = some value ∧ fuzzyMark ∈ text.toList := by
    rw [hfullText]
    split
    next => simp
    next => simp [and_comm]
  have hlisted (clause : FullText) (hsome : query.fullText = some clause) :
      clause.fields = query.scored.map WeightedField.text := by
    rw [hfullText] at hsome
    split at hsome
    next => exact absurd hsome nofun
    next => rw [← Option.some.inj hsome]
  refine ⟨?_, ?_, ?_, ?_, fun name => rfl, Compile.scoredName_eq_self_iff catalog language text,
    hfuzziness, ?_⟩
  · rw [hfullText]
    split
    next h => exact iff_of_false (fun hnone => hnone rfl) fun hne => hne h
    next h => exact iff_of_true (Option.some_ne_none _) h
  · intro clause hsome
    refine ⟨hlisted clause hsome, fun position n field hfield hlt hweight => ?_⟩
    rw [hlisted clause hsome, List.getElem?_map, hfield, Option.map_some,
      WeightedField.text_of_half hlt hweight]
  · rintro rfl
    exact ⟨hscored.trans (Compile.scored_eq catalog excluded language ""), rfl⟩
  · intro hne
    refine ⟨?_, ?_⟩
    · rw [hhighlight, Bool.not_eq_true', ← Bool.not_eq_true, String.isEmpty_iff]
      exact hne
    · rw [hscored, Compile.scored_eq, if_neg hne]
  · intro hsome name
    obtain ⟨value, hvalue⟩ := Option.ne_none_iff_exists'.1 hsome
    exact (Compile.scoredName_eq_self_iff catalog language text name).2
      (Or.inl ((hfuzziness value).1 hvalue).2.2)

/-- A text that asks for fuzzy matching is matched against a taxonomy and then against a field and a
custom facet under their own names, each with its weight, and with the fuzziness of the catalog. -/
theorem compile_text_consistent_shoes :
    let catalog :=
      ((({ fields := ["title", "post_date"]
           taxonomies := ["category"]
           customFacets := ["brand"]
           fuzziness := some (.text "AUTO") } : CatalogTable).setWeight
        .field "title" 3.0).setWeight .customFacet "brand" 1.5).toCatalog
    let query := compile catalog {} {} "shoe~ and sock" []
    ({} : Hooks).fullText = none ∧
      query.scored = [⟨"category_name", 1.0⟩, ⟨"title", 3.0⟩, ⟨"brand", 1.5⟩] ∧
      query.fullText.map FullText.fields = some ["category_name^1", "title^3", "brand^1.5"] ∧
      query.fullText.bind FullText.fuzziness = some (.text "AUTO") := by
  intro catalog query
  obtain ⟨hclause, hlisted, -, hscored, -, -, hfuzziness, -⟩ :=
    compile_text_consistent catalog {} {} "shoe~ and sock" [] rfl
  have hfields : query.scored = [⟨"category_name", 1.0⟩, ⟨"title", 3.0⟩, ⟨"brand", 1.5⟩] :=
    (hscored (by decide)).2.trans (by decide)
  have hsome : query.fullText ≠ none := hclause.2 (by rw [hfields]; exact List.cons_ne_nil _ _)
  obtain ⟨clause, hfullText⟩ := Option.ne_none_iff_exists'.1 hsome
  refine ⟨rfl, hfields, ?_, (hfuzziness (.text "AUTO")).2 ⟨hsome, rfl, by decide⟩⟩
  rw [hfullText, Option.map_some, (hlisted clause hfullText).1, hfields]
  decide +kernel

/-- A weight that counts is above zero, or it is not a number and that of a listed name. So all
weights that count are above zero exactly if the text is empty or all listed names have weights that
are numbers. Every taxonomy whose weight is above zero counts with this weight, and with one if it
is zero, and every listed name counts whose weight is above zero. -/
theorem compile_scored_positive_iff (catalog : Catalog) (hooks : Hooks) (tenant : TenantSettings)
    (text : String) (selections : Selections) :
    let query := compile catalog hooks tenant text selections
    let excluded := hooks.applyExcludedFields Compile.defaultExcluded
    let language := hooks.applyLanguage Compile.defaultLanguage
    ((∀ field ∈ query.scored, 0.0 < field.weight) ↔
        text = "" ∨ ∀ kind name, (kind, name) ∈ Compile.listings catalog excluded →
          (catalog.weight kind name).isNaN = false) ∧
      (∀ field ∈ query.scored, ¬ 0.0 < field.weight →
        field.weight.isNaN = true ∧ ∃ kind name, (kind, name) ∈ Compile.listings catalog excluded ∧
          field = ⟨Compile.scoredName catalog language text name, catalog.weight kind name⟩) ∧
      (text ≠ "" →
        (∀ name ∈ catalog.taxonomies, 0.0 < catalog.weight .taxonomy name →
          ⟨Compile.taxonomyField name, catalog.weight .taxonomy name⟩ ∈ query.scored) ∧
        (∀ name ∈ catalog.taxonomies, (catalog.weight .taxonomy name == 0.0) = true →
          ⟨Compile.taxonomyField name, 1.0⟩ ∈ query.scored) ∧
        ∀ kind name, (kind, name) ∈ Compile.listings catalog excluded →
          0.0 < catalog.weight kind name →
          ⟨Compile.scoredName catalog language text name, catalog.weight kind name⟩ ∈
            query.scored) := by
  intro query excluded language
  have hscored : query.scored = Compile.scored catalog excluded language (raiseOperators text) :=
    compile_scored catalog hooks tenant text selections
  have hmem (field : WeightedField) := Compile.mem_scored_iff catalog excluded language text field
  rw [← hscored] at hmem
  have hlisted : ∀ field ∈ query.scored, ¬ 0.0 < field.weight →
      field.weight.isNaN = true ∧ ∃ kind name, (kind, name) ∈ Compile.listings catalog excluded ∧
        field = ⟨Compile.scoredName catalog language text name, catalog.weight kind name⟩ := by
    intro field hfield hpos
    rcases ((hmem field).1 hfield).2 with
      ⟨name, -, hweight, rfl⟩ | ⟨kind, name, hlisting, hweight, rfl⟩
    · exact absurd hweight hpos
    · exact ⟨(Decimal.not_nonpos_iff.1 hweight).resolve_left hpos, kind, name, hlisting, rfl⟩
  have htaxonomy (hne : text ≠ "") (name : String) (hname : name ∈ catalog.taxonomies)
      (hpos : 0.0 < Compile.taxonomyWeight catalog name) :
      ⟨Compile.taxonomyField name, Compile.taxonomyWeight catalog name⟩ ∈ query.scored :=
    (hmem _).2 ⟨hne, Or.inl ⟨name, hname, hpos, rfl⟩⟩
  refine ⟨⟨fun hpos => ?_, fun hnumbers field hfield => ?_⟩, hlisted, fun hne => ⟨?_, ?_, ?_⟩⟩
  · by_cases htext : text = ""
    · exact Or.inl htext
    · refine Or.inr fun kind name hlisting => ?_
      by_contra hnan
      have hnan : (catalog.weight kind name).isNaN = true := by simpa using hnan
      -- A listed name whose weight is not a number would be scored with it.
      have hweight := Decimal.not_nonpos_iff.2 (Or.inr hnan)
      have hfield := (hmem _).2 ⟨htext, Or.inr ⟨kind, name, hlisting, hweight, rfl⟩⟩
      rw [Decimal.isNaN_eq_false_of_pos (hpos _ hfield)] at hnan
      exact Bool.false_ne_true hnan
  · by_contra hpos
    obtain ⟨hnan, kind, name, hlisting, rfl⟩ := hlisted field hfield hpos
    rcases hnumbers with htext | hnumbers
    · exact ((hmem _).1 hfield).1 htext
    · rw [hnumbers kind name hlisting] at hnan
      exact Bool.false_ne_true hnan
  · intro name hname hpos
    have hweight := Compile.taxonomyWeight_of_pos hpos
    rw [← hweight] at hpos ⊢
    exact htaxonomy hne name hname hpos
  · intro name hname hzero
    have hweight := Compile.taxonomyWeight_of_zero hzero
    have hpos : 0.0 < Compile.taxonomyWeight catalog name := by
      rw [hweight]
      decide
    rw [← hweight]
    exact htaxonomy hne name hname hpos
  · intro kind name hlisting hpos
    exact (hmem _).2 ⟨hne,
      Or.inr ⟨kind, name, hlisting, Decimal.not_nonpos_iff.2 (Or.inl hpos), rfl⟩⟩

/-- A field whose weight is not a number is scored, and its weight is not above zero. -/
theorem compile_scored_nan :
    let catalog :=
      (({ fields := ["title"] } : CatalogTable).setWeight .field "title" (0.0 / 0.0)).toCatalog
    ∃ field ∈ (compile catalog {} {} "shoes" []).scored, ¬ 0.0 < field.weight := by
  refine ⟨⟨"title.english", 0.0 / 0.0⟩, by decide, by decide⟩

end Faceted
