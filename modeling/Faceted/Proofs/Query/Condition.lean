import Faceted.Proofs.Entries
import Faceted.Query.Basic

/-!
# What the condition of a query accepts

A search engine matches every document against the condition of a query. A condition of the form
`bool` holds lists of conditions: all of `must` and of `filter` have to accept the document, and of
`should`, if it is there, as many as `minimum_should_match` asks for. Every other condition is a
leaf. What the leaves accept depends on the index, so that the meaning of a condition is given here
for any verdict on leaves.

## Main definitions

* `Condition.accepts` — whether a condition accepts a document, given the verdict on leaves
* `Condition.acceptsDocument` — the same for a query as it is sent, which may have no condition

## Main results

* `accepts_bool_iff` — the meaning of a `bool` condition, section by section
* `accepts_clause`, `accepts_fullText` — the clauses of a query are leaves
* `accepts_group_iff` — a group accepts what all its members accept
* `acceptsDocument_sections_iff` — the meaning of a query without a fragment
-/

namespace Faceted

namespace Condition

/-- How many conditions of `should` have to accept. -/
def quorum (sections : Entries Json) : Nat :=
  match Entries.get? sections "minimum_should_match" with
  | some (.number (.integer n)) => n.toNat
  | _ => 0

/-- The conditions of a section: the items of a list, or the one condition
that stands for itself. -/
def listed : Json → List Json
  | .array items => items
  | value => [value]

/-- The verdict of a `bool` condition, from those of the conditions in its sections. -/
def combined (quorum : Nat) (verdicts : Entries (List Bool)) : Bool :=
  ((Entries.get? verdicts "must").all fun must => must.all id)
    && ((Entries.get? verdicts "filter").all fun filter => filter.all id)
    && ((Entries.get? verdicts "should").all fun should => decide (quorum ≤ should.count true))

mutual

/-- Whether a condition accepts a document, if `leaf` is the verdict on every leaf. -/
def accepts (leaf : Json → Bool) : Json → Bool
  | .object [(name, .object sections)] =>
    if name = "bool" then combined (quorum sections) (sectionVerdicts leaf sections)
    else leaf (.object [(name, .object sections)])
  | value => leaf value

/-- The verdicts of the conditions in each section. -/
def sectionVerdicts (leaf : Json → Bool) : List (String × Json) → Entries (List Bool)
  | [] => []
  | (name, .array items) :: rest => (name, verdicts leaf items) :: sectionVerdicts leaf rest
  | (name, value) :: rest => (name, [accepts leaf value]) :: sectionVerdicts leaf rest

/-- The verdicts of several conditions. -/
def verdicts (leaf : Json → Bool) : List Json → List Bool
  | [] => []
  | item :: rest => accepts leaf item :: verdicts leaf rest

end

/-- Whether a query, as it is sent, matches a document. Without a condition
it matches everything. -/
def acceptsDocument (leaf : Json → Bool) (document : Entries Json) : Bool :=
  (Entries.get? document "query").all (accepts leaf)

/-! ### The meaning of `bool` -/

section Bool

variable (leaf : Json → Bool)

theorem verdicts_eq_map (items : List Json) : verdicts leaf items = items.map (accepts leaf) := by
  induction items with
  | nil => simp [verdicts]
  | cons item rest ih => simp [verdicts, ih]

theorem sectionVerdicts_cons (name : String) (value : Json) (rest : List (String × Json)) :
    sectionVerdicts leaf ((name, value) :: rest) =
      (name, (listed value).map (accepts leaf)) :: sectionVerdicts leaf rest := by
  cases value <;> simp [sectionVerdicts, listed, verdicts_eq_map]

theorem get?_sectionVerdicts (sections : Entries Json) (name : String) :
    Entries.get? (sectionVerdicts leaf sections) name =
      (Entries.get? sections name).map fun value => (listed value).map (accepts leaf) := by
  induction sections with
  | nil => simp [sectionVerdicts]
  | cons entry rest ih =>
    obtain ⟨key, value⟩ := entry
    rw [sectionVerdicts_cons]
    by_cases h : key = name <;> simp [Entries.get?, h, ih]

/-- A `bool` condition accepts what all of `must`, all of `filter` and enough of `should` accept. -/
theorem accepts_bool_iff (sections : Entries Json) :
    accepts leaf (.object [("bool", .object sections)]) = true ↔
      (∀ value ∈ Entries.get? sections "must", ∀ item ∈ listed value, accepts leaf item = true) ∧
      (∀ value ∈ Entries.get? sections "filter", ∀ item ∈ listed value, accepts leaf item = true) ∧
      ∀ value ∈ Entries.get? sections "should",
        quorum sections ≤ (listed value).countP (accepts leaf) := by
  have counted : ∀ items : List Json,
      (items.map (accepts leaf)).count true = items.countP (accepts leaf) := fun items => by
    rw [List.count, List.countP_map]
    exact List.countP_congr fun item _ => by simp
  rw [accepts, if_pos rfl, combined]
  simp only [get?_sectionVerdicts, Option.all_map, Bool.and_eq_true, Option.all_eq_true,
    Function.comp_apply, List.all_map, List.all_eq_true, id_eq, decide_eq_true_eq,
    counted, and_assoc, Option.mem_def]

/-- What is not a `bool` condition is a leaf. -/
theorem accepts_of_name_ne (name : String) (sections : Entries Json) (h : name ≠ "bool") :
    accepts leaf (.object [(name, .object sections)]) =
      leaf (.object [(name, .object sections)]) := by
  rw [accepts, if_neg h]

end Bool

/-! ### The parts of a query -/

section Query

variable (leaf : Json → Bool)

theorem accepts_clause (clause : Clause) : accepts leaf clause.toJson = leaf clause.toJson := by
  have hname : clause.kind.name ≠ "bool" := by
    cases clause.kind with
    | term => simp [ClauseKind.name]
    | range => simp [ClauseKind.name]
  exact accepts_of_name_ne leaf _ _ hname

theorem accepts_fullText (clause : FullText) : accepts leaf clause.toJson = leaf clause.toJson :=
  accepts_of_name_ne leaf _ _ (by simp)

/-- The threshold of a group is the number of its members, so that it leaves none of them out. -/
theorem accepts_group_iff (group : ClauseGroup) :
    accepts leaf group.toJson = true ↔ ∀ clause ∈ group.clauses, leaf clause.toJson = true := by
  obtain ⟨kind, clauses⟩ := group
  -- A count is at most the length of the list, and reaches it only if every member is counted.
  have enough : clauses.length ≤ clauses.countP (accepts leaf ∘ Clause.toJson) ↔
      ∀ clause ∈ clauses, leaf clause.toJson = true := by
    rw [← List.countP_eq_length, Nat.le_antisymm_iff, and_iff_right List.countP_le_length]
    simp only [Function.comp_def, accepts_clause]
  rw [ClauseGroup.toJson, accepts_bool_iff]
  simpa [Entries.get?, listed, quorum, Json.nat, ClauseGroup.threshold] using enough

theorem get?_listed_self (name : String) (items : List Json) :
    Entries.get? (Query.listed name items) name =
      if items.isEmpty then none else some (.array items) := by
  cases items <;> simp [Query.listed, Entries.get?]

theorem get?_listed_of_ne {name other : String} (items : List Json) (h : name ≠ other) :
    Entries.get? (Query.listed name items) other = none := by
  cases items <;> simp [Query.listed, Entries.get?, h]

/-- The condition of a query asks for all of `must` and all of `filter`, also where one
of the two is left out. -/
theorem all_conditionJson?_iff (query : Query) :
    (query.conditionJson?.all (accepts leaf)) = true ↔
      (∀ item ∈ query.mustJson, accepts leaf item = true) ∧
        ∀ item ∈ query.filterJson, accepts leaf item = true := by
  rw [Query.conditionJson?]
  split
  next h =>
    rw [Bool.and_eq_true, List.isEmpty_iff, List.isEmpty_iff] at h
    simp [h.1, h.2]
  next h =>
    -- An empty section is left out, and asks for as little as if it were there.
    have asked (items : List Json) :
        (∀ value ∈ (if items.isEmpty then none else some (Json.array items)),
          ∀ item ∈ listed value, accepts leaf item = true) ↔
        ∀ item ∈ items, accepts leaf item = true := by
      cases items <;> simp [listed]
    rw [Option.all_some, accepts_bool_iff]
    simp only [Entries.get?_append, get?_listed_self, get?_listed_of_ne, ne_eq, String.reduceEq,
      not_false_eq_true, Option.or_none, Option.none_or, asked]
    simp

theorem get?_sections_query (query : Query) :
    Entries.get? query.sections "query" = query.conditionJson? := by
  unfold Query.sections
  cases query.conditionJson? <;> cases query.aggregations <;> cases query.highlight <;>
    simp [Entries.get?]

/-- A query without a fragment matches what its text clause, each of its required clauses and each
clause of its groups accepts. -/
theorem acceptsDocument_sections_iff (query : Query) :
    acceptsDocument leaf query.sections = true ↔
      (∀ clause ∈ query.fullText, leaf clause.toJson = true) ∧
      (∀ clause ∈ query.required, leaf clause.toJson = true) ∧
      ∀ group ∈ query.groups, ∀ clause ∈ group.clauses, leaf clause.toJson = true := by
  rw [acceptsDocument, get?_sections_query, all_conditionJson?_iff]
  simp only [Query.mustJson, Query.filterJson, List.mem_append, List.mem_map, Option.mem_toList,
    Option.mem_def, or_imp, forall_and, forall_exists_index, and_imp, forall_apply_eq_imp_iff₂,
    accepts_clause, accepts_fullText, accepts_group_iff, and_assoc]

end Query

end Condition

end Faceted
