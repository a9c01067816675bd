import Faceted.Proofs.Query.Gathering
import Faceted.Proofs.Reading
import Faceted.Query.Basic

/-!
# Reading a query back

What is written of a query can be read back. The text clause shares a list with the required
clauses, sections and lists are left out if they are empty, the kind of a group is written in its
members only, and names and values are free to look like other parts of a document; still no two
queries are written the same that ask for something else. Each part has a reader, which accepts
exactly what is written of such parts, and the reader of documents is put together from them.

The fields that the text is matched against are part of the text clause; the weights that they were
computed from are not written, so that they cannot be read back.

## Main definitions

* `Query.Legible` — a query without a fragment whose aggregations have different names and whose
  groups are those of gathered clauses
* `Query.ofDocument?` — reads a query from what is sent of it

## Main results

* `Clause.ofJson?_eq_some_iff`, `FullText.ofJson?_eq_some_iff`, `ClauseGroup.ofJson?_eq_some_iff` —
  the readers of clauses and groups are exact
* `Query.ofDocument?_eq_some_iff` — what is read from a document is the legible
  query that is sent as it
* `Query.document_eq_iff_of_legible` — legible queries that are sent the same are the same
-/

namespace Faceted

open Entries

/-! ### Clauses -/

/-- The predicate that queries call by this name. -/
def ClauseKind.ofName? (name : String) : Option ClauseKind :=
  [ClauseKind.term, .range].find? fun kind => kind.name = name

theorem ClauseKind.ofName?_eq_some_iff {name : String} {kind : ClauseKind} :
    ofName? name = some kind ↔ name = kind.name := by
  constructor
  · intro h
    simpa [eq_comm] using List.find?_some h
  · rintro rfl
    cases kind <;> rfl

namespace Clause

/-- Reads a clause. -/
def ofJson? : Json → Option Clause
  | .object [(name, .object [(field, value)])] =>
    (ClauseKind.ofName? name).map fun kind => ⟨kind, field, value⟩
  | _ => none

theorem ofJson?_eq_some_iff {json : Json} {clause : Clause} :
    ofJson? json = some clause ↔ json = clause.toJson := by
  constructor
  · intro h
    unfold ofJson? at h
    split at h
    next name field value =>
      obtain ⟨kind, hkind, rfl⟩ := Option.map_eq_some_iff.1 h
      rw [ClauseKind.ofName?_eq_some_iff.1 hkind]
      rfl
    next => exact nomatch h
  · rintro rfl
    rw [toJson, ofJson?, ClauseKind.ofName?_eq_some_iff.2 rfl]
    rfl

theorem mapM_ofJson?_eq_some_iff {items : List Json} {clauses : List Clause} :
    items.mapM ofJson? = some clauses ↔ items = clauses.map toJson :=
  mapM_eq_some_iff (fun _ _ => ofJson?_eq_some_iff) items clauses

@[simp] theorem mapM_ofJson?_map_toJson (clauses : List Clause) :
    (clauses.map toJson).mapM ofJson? = some clauses :=
  mapM_ofJson?_eq_some_iff.2 rfl

/-- A clause can be told from what is written of it. -/
theorem toJson_injective : Function.Injective toJson := by
  intro clause other h
  exact Option.some.inj ((ofJson?_eq_some_iff.2 rfl).symm.trans (ofJson?_eq_some_iff.2 h))

end Clause

namespace FullText

/-- What a text clause may say, in the order in which it is written. -/
def memberNames : List String := ["fields", "query", "fuzziness"]

theorem nodup_memberNames : memberNames.Nodup := by decide

/-- Reads a text clause. -/
def ofJson? : Json → Option FullText
  | .object [("query_string", .object members)] =>
    match slots? memberNames members with
    | some [some fields, some (.text query), fuzziness] =>
      fields.texts?.map fun fields => ⟨fields, query, fuzziness⟩
    | _ => none
  | _ => none

theorem toJson_eq_ofSlots (clause : FullText) :
    clause.toJson = .object [("query_string", .object (ofSlots memberNames
      [some (.texts clause.fields), some (.text clause.query), clause.fuzziness]))] := by
  obtain ⟨fields, query, fuzziness⟩ := clause
  cases fuzziness <;> rfl

theorem ofJson?_eq_some_iff {json : Json} {clause : FullText} :
    ofJson? json = some clause ↔ json = clause.toJson := by
  rw [toJson_eq_ofSlots]
  constructor
  · intro h
    unfold ofJson? at h
    split at h
    next members =>
      split at h
      next fields query fuzziness hmembers =>
        obtain ⟨strings, hstrings, rfl⟩ := Option.map_eq_some_iff.1 h
        obtain ⟨-, rfl⟩ := (slots?_eq_some_iff nodup_memberNames).1 hmembers
        rw [Json.texts?_eq_some_iff.1 hstrings]
      next => exact nomatch h
    next => exact nomatch h
  · rintro rfl
    have hmembers := slots?_ofSlots nodup_memberNames
      [some (Json.texts clause.fields), some (.text clause.query), clause.fuzziness] rfl
    have hfields := Json.texts?_eq_some_iff.2 (Eq.refl (Json.texts clause.fields))
    simp only [ofJson?, hmembers, hfields, Option.map_some]

/-- No clause of a facet is read as the text clause, whatever its field is called. -/
theorem ofJson?_clause (clause : Clause) : ofJson? clause.toJson = none := by
  obtain ⟨kind, field, value⟩ := clause
  cases kind <;> rfl

/-- The text clause of a query is none of its facets. -/
theorem toJson_ne_toJson (fullText : FullText) (clause : Clause) :
    fullText.toJson ≠ clause.toJson := by
  intro h
  have hread : ofJson? clause.toJson = some fullText := ofJson?_eq_some_iff.2 h.symm
  exact Option.some_ne_none fullText (hread.symm.trans (ofJson?_clause clause))

end FullText

namespace ClauseGroup

/-- Reads a group. Its kind is that of its members, which all have to match. -/
def ofJson? : Json → Option ClauseGroup
  | .object [("bool", .object
      [("should", .array members), ("minimum_should_match", .number (.integer count))])] => do
    let clauses ← members.mapM Clause.ofJson?
    -- A group without members would leave nothing to tell its kind by.
    let first ← clauses.head?
    if count = clauses.length ∧ ∀ clause ∈ clauses, clause.kind = first.kind then
      some ⟨first.kind, clauses⟩
    else none
  | _ => none

/-- A uniform group can be read, and no other. -/
theorem ofJson?_eq_some_iff {json : Json} {group : ClauseGroup} :
    ofJson? json = some group ↔ group.Uniform ∧ json = group.toJson := by
  constructor
  · intro h
    unfold ofJson? at h
    split at h
    next items count =>
      obtain ⟨clauses, hclauses, h⟩ := Option.bind_eq_some_iff.1 h
      obtain ⟨first, hfirst, h⟩ := Option.bind_eq_some_iff.1 h
      obtain ⟨⟨hcount, hkinds⟩, hgroup⟩ := Option.ite_none_right_eq_some.1 h
      obtain rfl := Option.some.inj hgroup
      refine ⟨⟨List.ne_nil_of_mem (List.mem_of_head? hfirst), hkinds⟩, ?_⟩
      rw [Clause.mapM_ofJson?_eq_some_iff.1 hclauses, hcount]
      rfl
    next => exact nomatch h
  · rintro ⟨⟨hnonempty, hkinds⟩, rfl⟩
    obtain ⟨kind, clauses⟩ := group
    obtain ⟨first, rest, rfl⟩ := List.exists_cons_of_ne_nil hnonempty
    obtain rfl : first.kind = kind := hkinds first List.mem_cons_self
    simp only [toJson, ofJson?, Json.nat, Clause.mapM_ofJson?_map_toJson]
    exact if_pos ⟨rfl, hkinds⟩

theorem mapM_ofJson?_eq_some_iff {items : List Json} {groups : List ClauseGroup} :
    items.mapM ofJson? = some groups ↔ (∀ group ∈ groups, group.Uniform) ∧
      items = groups.map toJson :=
  mapM_eq_some_iff_of_proper Uniform (fun _ _ => ofJson?_eq_some_iff) items groups

end ClauseGroup

/-- Reads an aggregation, with the name that it is listed under. -/
def Aggregation.ofMember? : String × Json → Option Aggregation
  | (name, .object [("terms", .object [("field", .text field)])]) => some ⟨name, field⟩
  | _ => none

theorem Aggregation.ofMember?_eq_some_iff {member : String × Json} {aggregation : Aggregation} :
    ofMember? member = some aggregation ↔ member = (aggregation.name, aggregation.toJson) := by
  constructor
  · intro h
    unfold ofMember? at h
    split at h
    next name field =>
      obtain rfl := Option.some.inj h
      rfl
    next => exact nomatch h
  · rintro rfl
    rfl

namespace Query

/-! ### The condition -/

/-- A list, if there is something in it. -/
def array? (items : List Json) : Option Json :=
  if items.isEmpty then none else some (.array items)

theorem listed_eq_toList (name : String) (items : List Json) :
    listed name items = ((array? items).map (name, ·)).toList := by
  cases items <;> rfl

/-- Reads a list that is left out if it is empty. -/
def items? : Option Json → Option (List Json)
  | none => some []
  | some (.array (item :: items)) => some (item :: items)
  | some _ => none

theorem items?_eq_some_iff {value? : Option Json} {items : List Json} :
    items? value? = some items ↔ value? = array? items := by
  constructor
  · intro h
    unfold items? at h
    split at h
    next =>
      obtain rfl := Option.some.inj h
      rfl
    next item items =>
      obtain rfl := Option.some.inj h
      rfl
    next => exact nomatch h
  · rintro rfl
    cases items <;> rfl

/-- The lists of a condition, in the order in which they are written. -/
def listNames : List String := ["must", "filter"]

theorem nodup_listNames : listNames.Nodup := by decide

/-- The condition with these lists, if one of them has something in it. -/
def condition? (must filter : List Json) : Option Json :=
  if must = [] ∧ filter = [] then none
  else some (.object [("bool", .object (ofSlots listNames [array? must, array? filter]))])

theorem conditionJson?_eq (query : Query) :
    query.conditionJson? = condition? query.mustJson query.filterJson := by
  simp only [conditionJson?, condition?, listed_eq_toList, Bool.and_eq_true,
    List.isEmpty_iff, listNames, ofSlots_cons, ofSlots_nil, List.append_nil]

/-- Reads the lists of a condition. -/
def conditionItems? : Option Json → Option (List Json × List Json)
  | none => some ([], [])
  | some (.object [("bool", .object sections)]) =>
    match slots? listNames sections with
    | some [must?, filter?] => do
      let must ← items? must?
      let filter ← items? filter?
      -- Where there is nothing to match, no condition is written at all.
      if must = [] ∧ filter = [] then none else some (must, filter)
    | _ => none
  | some _ => none

theorem conditionItems?_eq_some_iff {value? : Option Json} {must filter : List Json} :
    conditionItems? value? = some (must, filter) ↔ value? = condition? must filter := by
  constructor
  · intro h
    unfold conditionItems? at h
    split at h
    next =>
      obtain ⟨rfl, rfl⟩ := Prod.mk.inj (Option.some.inj h)
      rfl
    next sections =>
      split at h
      next must? filter? hsections =>
        obtain ⟨-, rfl⟩ := (slots?_eq_some_iff nodup_listNames).1 hsections
        obtain ⟨must, hmust, h⟩ := Option.bind_eq_some_iff.1 h
        obtain ⟨filter, hfilter, h⟩ := Option.bind_eq_some_iff.1 h
        obtain ⟨hne, hitems⟩ := Option.ite_none_left_eq_some.1 h
        obtain ⟨rfl, rfl⟩ := Prod.mk.inj (Option.some.inj hitems)
        rw [items?_eq_some_iff.1 hmust, items?_eq_some_iff.1 hfilter, condition?, if_neg hne]
      next => exact nomatch h
    next => exact nomatch h
  · rintro rfl
    rw [condition?]
    split
    next hnil =>
      obtain ⟨rfl, rfl⟩ := hnil
      rfl
    next hne =>
      have hsections := slots?_ofSlots nodup_listNames [array? must, array? filter] rfl
      have hmust := items?_eq_some_iff.2 (Eq.refl (array? must))
      have hfilter := items?_eq_some_iff.2 (Eq.refl (array? filter))
      simp only [conditionItems?, hsections, hmust, hfilter]
      exact if_neg hne

/-- Reads what every match meets: the text clause, if the list begins with one, and the required
clauses. -/
def mustClauses? : List Json → Option (Option FullText × List Clause)
  | [] => some (none, [])
  | item :: items =>
    match FullText.ofJson? item with
    | some fullText => (items.mapM Clause.ofJson?).map (some fullText, ·)
    | none => ((item :: items).mapM Clause.ofJson?).map (none, ·)

theorem mustClauses?_eq_some_iff {items : List Json} {fullText : Option FullText}
    {clauses : List Clause} :
    mustClauses? items = some (fullText, clauses) ↔
      items = fullText.toList.map FullText.toJson ++ clauses.map Clause.toJson := by
  constructor
  · intro h
    unfold mustClauses? at h
    split at h
    next =>
      obtain ⟨rfl, rfl⟩ := Prod.mk.inj (Option.some.inj h)
      rfl
    next item items =>
      -- What is not the text clause has to be a clause of a facet, like all that follow.
      split at h
      next text htext =>
        obtain ⟨clauses, hclauses, heq⟩ := Option.map_eq_some_iff.1 h
        obtain ⟨rfl, rfl⟩ := Prod.mk.inj heq
        rw [FullText.ofJson?_eq_some_iff.1 htext, Clause.mapM_ofJson?_eq_some_iff.1 hclauses]
        rfl
      next =>
        obtain ⟨clauses, hclauses, heq⟩ := Option.map_eq_some_iff.1 h
        obtain ⟨rfl, rfl⟩ := Prod.mk.inj heq
        exact Clause.mapM_ofJson?_eq_some_iff.1 hclauses
  · rintro rfl
    have hclauses := Clause.mapM_ofJson?_map_toJson clauses
    cases fullText with
    | some text =>
      have htext := FullText.ofJson?_eq_some_iff.2 (Eq.refl text.toJson)
      simp only [Option.toList_some, List.map_cons, List.map_nil, List.singleton_append,
        mustClauses?, htext, hclauses, Option.map_some]
    | none =>
      cases clauses with
      | nil => rfl
      | cons clause clauses =>
        -- The first required clause is not taken for a text clause.
        rw [List.map_cons] at hclauses
        simp only [Option.toList_none, List.map_nil, List.nil_append, List.map_cons, mustClauses?,
          FullText.ofJson?_clause, hclauses, Option.map_some]

/-! ### The other sections -/

/-- The aggregations by name, if there are any. -/
def counts? (aggregations : List Aggregation) : Option Json :=
  if aggregations = [] then none
  else some (.object (aggregations.map fun aggregation => (aggregation.name, aggregation.toJson)))

/-- Reads aggregations with different names. -/
def aggregations? : Option Json → Option (List Aggregation)
  | none => some []
  | some (.object (member :: members)) => do
    let aggregations ← (member :: members).mapM Aggregation.ofMember?
    if (aggregations.map Aggregation.name).Nodup then some aggregations else none
  | some _ => none

theorem aggregations?_eq_some_iff {value? : Option Json} {aggregations : List Aggregation} :
    aggregations? value? = some aggregations ↔
      (aggregations.map Aggregation.name).Nodup ∧ value? = counts? aggregations := by
  have exact := mapM_eq_some_iff fun _ _ => Aggregation.ofMember?_eq_some_iff
  constructor
  · intro h
    unfold aggregations? at h
    split at h
    next =>
      obtain rfl := Option.some.inj h
      exact ⟨List.nodup_nil, rfl⟩
    next member members =>
      obtain ⟨listed, hlisted, h⟩ := Option.bind_eq_some_iff.1 h
      obtain ⟨hnodup, hread⟩ := Option.ite_none_right_eq_some.1 h
      obtain rfl := Option.some.inj hread
      have hmembers := (exact _ _).1 hlisted
      have hne : listed ≠ [] := by
        rintro rfl
        exact List.cons_ne_nil _ _ hmembers
      rw [hmembers, counts?, if_neg hne]
      exact ⟨hnodup, rfl⟩
    next => exact nomatch h
  · rintro ⟨hnodup, rfl⟩
    cases aggregations with
    | nil => rfl
    | cons aggregation aggregations =>
      have hlisted := (exact _ (aggregation :: aggregations)).2 rfl
      rw [List.map_cons] at hlisted
      simp only [counts?, reduceCtorEq, if_false, List.map_cons, aggregations?, hlisted]
      exact if_pos hnodup

/-- What asks for highlights, if they are asked for. -/
def highlighted? (highlight : Bool) : Option Json :=
  if highlight then some highlightJson else none

/-- Reads whether highlights are asked for. -/
def highlight? : Option Json → Option Bool
  | none => some false
  | some (.object [("fields", .object [("*", .object [("type", .text "plain")])])]) => some true
  | some _ => none

theorem highlight?_eq_some_iff {value? : Option Json} {highlight : Bool} :
    highlight? value? = some highlight ↔ value? = highlighted? highlight := by
  constructor
  · intro h
    unfold highlight? at h
    split at h
    next =>
      obtain rfl := Option.some.inj h
      rfl
    next =>
      obtain rfl := Option.some.inj h
      rfl
    next => exact nomatch h
  · rintro rfl
    cases highlight <;> rfl

/-! ### Documents -/

/-- A query that can be read back: it has no fragment, its aggregations have different names, and
its groups have members, all of the kind of their group. -/
structure Legible (query : Query) : Prop where
  extensions : query.extensions = []
  names : (query.aggregations.map Aggregation.name).Nodup
  groups : ∀ group ∈ query.groups, group.Uniform

/-- The sections of a document, in the order in which they are written. -/
def sectionNames : List String := ["query", "aggs", "highlight"]

theorem nodup_sectionNames : sectionNames.Nodup := by decide

/-- The sections of a query, one after the other. -/
def sectionValues (query : Query) : List (Option Json) :=
  [condition? query.mustJson query.filterJson, counts? query.aggregations,
    highlighted? query.highlight]

theorem Legible.document_eq {query : Query} (h : query.Legible) :
    query.document = ofSlots sectionNames query.sectionValues := by
  -- Different names are listed as they are, none of them in the place of another.
  have hcounts : (if query.aggregations.isEmpty then []
        else [("aggs", Json.object query.aggregationsJson)]) =
      ((counts? query.aggregations).map ("aggs", ·)).toList := by
    have hnodup : (keys (query.aggregations.map fun aggregation =>
        (aggregation.name, aggregation.toJson))).Nodup := by
      simpa [keys, Function.comp_def] using h.names
    rw [aggregationsJson, ofPairs_of_nodup hnodup]
    cases query.aggregations <;> rfl
  have hhighlight : (if query.highlight then [("highlight", highlightJson)] else []) =
      ((highlighted? query.highlight).map ("highlight", ·)).toList := by
    cases query.highlight <;> rfl
  rw [document, h.extensions, Json.overlay_nil, sections, conditionJson?_eq, hcounts, hhighlight]
  simp only [sectionNames, sectionValues, ofSlots_cons, ofSlots_nil, List.append_nil,
    List.append_assoc]

/-- Reads a query from what is sent of it. -/
def ofDocument? (document : Entries Json) : Option Query :=
  match slots? sectionNames document with
  | some [condition?, counts?, highlighted?] => do
    let (must, filter) ← conditionItems? condition?
    let (fullText, required) ← mustClauses? must
    let groups ← filter.mapM ClauseGroup.ofJson?
    let aggregations ← aggregations? counts?
    let highlight ← highlight? highlighted?
    return { fullText, required, groups, aggregations, highlight }
  | _ => none

/-- A legible query is read back from its document, all but the weights that are not written. -/
theorem Legible.ofDocument?_document {query : Query} (h : query.Legible) :
    ofDocument? query.document = some { query with scored := [] } := by
  -- Section by section, a reader undoes what wrote it.
  have hsections := slots?_ofSlots nodup_sectionNames query.sectionValues rfl
  have hcondition :=
    conditionItems?_eq_some_iff.2 (Eq.refl (condition? query.mustJson query.filterJson))
  have hmust := mustClauses?_eq_some_iff.2 (Eq.refl query.mustJson)
  have hfilter := ClauseGroup.mapM_ofJson?_eq_some_iff.2 ⟨h.groups, Eq.refl query.filterJson⟩
  have haggregations := aggregations?_eq_some_iff.2 ⟨h.names, Eq.refl (counts? query.aggregations)⟩
  have hhighlight := highlight?_eq_some_iff.2 (Eq.refl (highlighted? query.highlight))
  rw [h.document_eq, ofDocument?, hsections]
  simp only [sectionValues, hcondition, hmust, hfilter, haggregations, hhighlight, h.extensions,
    Option.bind_eq_bind, Option.bind_some, Option.pure_def]

/-- What is read from a document is legible, and is sent as this document. -/
theorem legible_of_ofDocument? {document : Entries Json} {query : Query}
    (h : ofDocument? document = some query) :
    query.Legible ∧ query.scored = [] ∧ document = query.document := by
  unfold ofDocument? at h
  split at h
  next condition? counts? highlighted? hsections =>
    obtain ⟨-, rfl⟩ := (slots?_eq_some_iff nodup_sectionNames).1 hsections
    obtain ⟨⟨must, filter⟩, hcondition, h⟩ := Option.bind_eq_some_iff.1 h
    obtain ⟨⟨fullText, required⟩, hmust, h⟩ := Option.bind_eq_some_iff.1 h
    obtain ⟨groups, hfilter, h⟩ := Option.bind_eq_some_iff.1 h
    obtain ⟨aggregations, haggregations, h⟩ := Option.bind_eq_some_iff.1 h
    obtain ⟨highlight, hhighlight, h⟩ := Option.bind_eq_some_iff.1 h
    obtain rfl := Option.some.inj h
    -- Each reader accepted what is written of the part that it gave.
    obtain ⟨huniform, rfl⟩ := ClauseGroup.mapM_ofJson?_eq_some_iff.1 hfilter
    obtain ⟨hdistinct, rfl⟩ := aggregations?_eq_some_iff.1 haggregations
    obtain rfl := mustClauses?_eq_some_iff.1 hmust
    have hlegible : Legible { fullText, required, groups, aggregations, highlight } :=
      ⟨rfl, hdistinct, huniform⟩
    refine ⟨hlegible, rfl, ?_⟩
    rw [hlegible.document_eq, conditionItems?_eq_some_iff.1 hcondition,
      highlight?_eq_some_iff.1 hhighlight]
    rfl
  next => exact nomatch h

/-- What is read from a document is the one legible query without weights that is sent as it. -/
theorem ofDocument?_eq_some_iff {document : Entries Json} {query : Query} :
    ofDocument? document = some query ↔
      query.Legible ∧ query.scored = [] ∧ document = query.document := by
  refine ⟨legible_of_ofDocument?, ?_⟩
  rintro ⟨hlegible, hscored, rfl⟩
  rw [hlegible.ofDocument?_document, ← hscored]

/-- A legible query is read back from its document, so that two of them are sent the same only if
they have the same text clause, with the same fuzziness or without any, the same required clauses
and groups, the same aggregations in the same order, and both ask for highlights or neither does. -/
theorem document_eq_iff_of_legible {first second : Query} (hfirst : first.Legible)
    (hsecond : second.Legible) :
    ofDocument? first.document = some { first with scored := [] } ∧
      (first.document = second.document ↔
        first.fullText = second.fullText ∧ first.required = second.required ∧
          first.groups = second.groups ∧ first.aggregations = second.aggregations ∧
          first.highlight = second.highlight) := by
  have hread := hfirst.ofDocument?_document
  refine ⟨hread, fun hdocument => ?_, ?_⟩
  · rw [hdocument, hsecond.ofDocument?_document, Option.some_inj, Query.mk.injEq] at hread
    obtain ⟨hfullText, hrequired, hgroups, -, haggregations, hhighlight, -⟩ := hread
    exact ⟨hfullText.symm, hrequired.symm, hgroups.symm, haggregations.symm, hhighlight.symm⟩
  · rintro ⟨hfullText, hrequired, hgroups, haggregations, hhighlight⟩
    rw [hfirst.document_eq, hsecond.document_eq, sectionValues, sectionValues, mustJson, mustJson,
      filterJson, filterJson, hfullText, hrequired, hgroups, haggregations, hhighlight]

/-- A search in which a required facet is called like the text clause, and with groups of both
kinds, is read back, and it is not sent like the same search with a fuzziness of null. -/
theorem document_eq_iff_of_legible_fuzziness :
    let query (fuzziness : Option Json) : Query :=
      { fullText := some ⟨["title^2"], "shoes", fuzziness⟩
        required := [⟨.term, "query_string", .text "shoes"⟩]
        groups := ClauseGroup.gather
          [⟨.term, "color", .text "red"⟩, ⟨.range, "price", .object []⟩,
            ⟨.term, "color", .text "blue"⟩]
        aggregations := [⟨"tenant", "blog_name"⟩, ⟨"category", "category_name"⟩]
        highlight := true }
    (query none).Legible ∧ (query (some .null)).Legible ∧
      ofDocument? (query none).document = some (query none) ∧
      (query none).document ≠ (query (some .null)).document := by
  intro query
  have hnames : ["tenant", "category"].Nodup := by decide
  have hlegible (fuzziness : Option Json) : (query fuzziness).Legible :=
    ⟨rfl, hnames, fun _ hgroup => ClauseGroup.uniform_of_mem_gather hgroup⟩
  obtain ⟨hread, hequal⟩ := document_eq_iff_of_legible (hlegible none) (hlegible (some .null))
  refine ⟨hlegible none, hlegible (some .null), hread, fun hdocument => ?_⟩
  have hfuzziness := congrArg (Option.map FullText.fuzziness) (hequal.1 hdocument).1
  exact absurd (Option.some.inj hfuzziness) nofun

end Query

end Faceted
