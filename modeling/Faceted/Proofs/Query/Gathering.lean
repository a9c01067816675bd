import Faceted.Proofs.Split
import Faceted.Query.Clause

/-!
# What becomes of selected values

Each value selected under the name of a pass becomes one clause. The operator of the
selection decides only where the clause goes: among the required clauses, or into a group
with others of its kind. Taken together, the required clauses and the groups hold the clauses
of all selected values and no others.

## Main definitions

* `ClauseGroup.Uniform` — a group has members, and all of them are of its kind
* `ClauseGroup.membersOf` — what groups hold of one kind

## Main results

* `ClauseGroup.gather_eq_split` — the groups of a list are its stable split by kind
* `ClauseGroup.uniform_of_mem_gather` — the groups of a list are uniform
* `ClauseGroup.perm_gather` — the groups of a list hold exactly its members
* `ClauseGroup.membersOf_gather` — the groups of a list hold its clauses kind by kind
* `FacetClauses.concat_eq` — the clauses of many parts
* `Pass.forall_clauses_iff` — a pass yields the clauses of the values selected under its name
* `Pass.forall_gathered_iff` — all that is required or gathered is what all passes yield
-/

namespace Faceted

namespace ClauseGroup

/-- The group of a part of a split. -/
def ofPart (part : ClauseKind × List Clause) : ClauseGroup :=
  ⟨part.1, part.2⟩

/-- The groups of a list of clauses are its stable split by kind. -/
theorem gather_eq_split (clauses : List Clause) :
    gather clauses = (splitByKey Clause.kind clauses).map ofPart :=
  foldl_eq_map_splitByKey ofPart (fun _ => rfl) (fun _ _ _ => rfl) clauses

/-- The kinds come in the order of their first appearance. -/
theorem map_kind_gather (clauses : List Clause) :
    (gather clauses).map ClauseGroup.kind = (clauses.map Clause.kind).eraseDups := by
  rw [gather_eq_split, List.map_map, ← map_fst_splitByKey]
  rfl

theorem nodup_kind_gather (clauses : List Clause) :
    ((gather clauses).map ClauseGroup.kind).Nodup := by
  rw [map_kind_gather]
  exact nodup_eraseDups _

/-- A group has the clauses of its kind, in order. -/
theorem eq_filter_of_mem_gather {clauses : List Clause} {group : ClauseGroup}
    (h : group ∈ gather clauses) :
    group.clauses = clauses.filter fun clause => clause.kind = group.kind := by
  rw [gather_eq_split] at h
  obtain ⟨part, hpart, rfl⟩ := List.mem_map.1 h
  exact eq_filter_of_mem_splitByKey hpart

/-- A group has members, and all of them are of its kind. -/
structure Uniform (group : ClauseGroup) : Prop where
  nonempty : group.clauses ≠ []
  kinds : ∀ clause ∈ group.clauses, clause.kind = group.kind

/-- A group is opened for a first member, and its kind is that of every member. -/
theorem uniform_of_mem_gather {clauses : List Clause} {group : ClauseGroup}
    (h : group ∈ gather clauses) : group.Uniform where
  nonempty := by
    rw [gather_eq_split] at h
    obtain ⟨part, hpart, rfl⟩ := List.mem_map.1 h
    exact ne_nil_of_mem_splitByKey hpart
  kinds := by
    intro clause hclause
    rw [eq_filter_of_mem_gather h] at hclause
    exact of_decide_eq_true (List.mem_filter.1 hclause).2

/-- What groups hold of one kind. -/
def membersOf (kind : ClauseKind) (groups : List ClauseGroup) : List Clause :=
  (groups.filter fun group => group.kind = kind).flatMap ClauseGroup.clauses

/-- Of each kind, the groups of a list hold the clauses of this kind, in order. -/
theorem membersOf_gather (kind : ClauseKind) (clauses : List Clause) :
    membersOf kind (gather clauses) = clauses.filter fun clause => clause.kind = kind := by
  rw [membersOf, gather_eq_split, List.filter_map, List.flatMap_map]
  exact flatMap_filter_splitByKey Clause.kind clauses kind

/-- What was gathered can be told from the groups, kind by kind. -/
theorem filter_eq_of_gather_eq {first second : List Clause} (h : gather first = gather second)
    (kind : ClauseKind) :
    (first.filter fun clause => clause.kind = kind) =
      second.filter fun clause => clause.kind = kind := by
  rw [← membersOf_gather, ← membersOf_gather, h]

/-- The groups together have the clauses of the list, each as often. -/
theorem perm_gather (clauses : List Clause) :
    ((gather clauses).flatMap ClauseGroup.clauses).Perm clauses := by
  rw [gather_eq_split, List.flatMap_map]
  exact perm_splitByKey Clause.kind clauses

/-- There is a group as soon as there is a clause. -/
theorem gather_eq_nil_iff {clauses : List Clause} : gather clauses = [] ↔ clauses = [] := by
  constructor
  · intro h
    have perm := perm_gather clauses
    rw [h] at perm
    exact perm.nil_eq.symm
  · rintro rfl
    rfl

/-- The groups of a list of clauses hold exactly its members. -/
theorem mem_gather (clauses : List Clause) (member : Clause) :
    (∃ group ∈ gather clauses, member ∈ group.clauses) ↔ member ∈ clauses := by
  rw [← (perm_gather clauses).mem_iff, List.mem_flatMap]

theorem forall_mem_gather_iff (clauses : List Clause) (p : Clause → Prop) :
    (∀ group ∈ gather clauses, ∀ clause ∈ group.clauses, p clause) ↔
      ∀ clause ∈ clauses, p clause := by
  constructor
  · intro h clause hclause
    obtain ⟨group, hgroup, hmember⟩ := (mem_gather clauses clause).2 hclause
    exact h group hgroup clause hmember
  · intro h group hgroup clause hmember
    exact h clause ((mem_gather clauses clause).1 ⟨group, hgroup, hmember⟩)

end ClauseGroup

namespace FacetClauses

theorem foldl_append (parts : List FacetClauses) (start : FacetClauses) :
    parts.foldl append start =
      ⟨start.required ++ parts.flatMap required,
        start.alternatives ++ parts.flatMap alternatives⟩ := by
  induction parts generalizing start with
  | nil => simp
  | cons part rest ih => rw [List.foldl_cons, ih]; simp [append]

/-- The clauses of many parts are those of each, one after the other. -/
theorem concat_eq (parts : List FacetClauses) :
    concat parts = ⟨parts.flatMap required, parts.flatMap alternatives⟩ :=
  foldl_append parts none

theorem concat_append (parts more : List FacetClauses) :
    concat (parts ++ more) = concat parts ++ concat more := by
  simp only [concat_eq, List.flatMap_append]
  rfl

/-- Required or alternative, a clause of many parts is a clause of one of them. -/
theorem forall_concat_iff (parts : List FacetClauses) (p : Clause → Prop) :
    ((∀ clause ∈ (concat parts).required, p clause) ∧
        ∀ clause ∈ (concat parts).alternatives, p clause) ↔
      ∀ part ∈ parts, (∀ clause ∈ part.required, p clause) ∧
        ∀ clause ∈ part.alternatives, p clause := by
  rw [concat_eq]
  simp only [List.mem_flatMap, forall_exists_index, and_imp]
  constructor
  · rintro ⟨hrequired, halternatives⟩ part hpart
    exact ⟨fun clause => hrequired clause part hpart, fun clause => halternatives clause part hpart⟩
  · intro h
    exact ⟨fun clause part hpart => (h part hpart).1 clause,
      fun clause part hpart => (h part hpart).2 clause⟩

end FacetClauses

namespace Pass

/-- A pass yields the clauses of the values selected under its name, whatever the operator. -/
theorem forall_clauses_iff (pass : Pass) (selections : Selections) (p : Clause → Prop) :
    ((∀ clause ∈ (pass.clauses selections).required, p clause) ∧
        ∀ clause ∈ (pass.clauses selections).alternatives, p clause) ↔
      ∀ selection ∈ Entries.get? selections pass.name, ∀ label ∈ selection.values,
        p (pass.clause label) := by
  -- One case for each operator: it leaves one of the two lists empty.
  unfold clauses
  split
  next h => simp [h, FacetClauses.none]
  next label h => simp [h, Selection.values]
  next labels h => simp [h, Selection.values]
  next labels h => simp [h, Selection.values]

/-- What holds of all required clauses and of all members of groups is what holds of the clauses of
all values that are selected under the name of some pass. -/
theorem forall_gathered_iff (passes : List Pass) (selections : Selections) (p : Clause → Prop) :
    ((∀ clause ∈ (FacetClauses.concat (passes.map fun pass => pass.clauses selections)).required,
        p clause) ∧
      ∀ group ∈ ClauseGroup.gather
          (FacetClauses.concat (passes.map fun pass => pass.clauses selections)).alternatives,
        ∀ clause ∈ group.clauses, p clause) ↔
      ∀ pass ∈ passes, ∀ selection ∈ Entries.get? selections pass.name,
        ∀ label ∈ selection.values, p (pass.clause label) := by
  rw [ClauseGroup.forall_mem_gather_iff, FacetClauses.forall_concat_iff, List.forall_mem_map]
  exact forall₂_congr fun pass _ => pass.forall_clauses_iff selections p

end Pass

end Faceted
