import Faceted.Proofs.Sort
import Faceted.Search.Resolution

/-!
# What is asked of a resolver, and where documents are placed

Loading the documents of results makes one call for each group with hits, in the order of the
groups. The first call that fails ends it, and no later call is made. If none fails, every
returned document that was a hit of the group it was asked for is placed under the rank of that
hit, and the documents are put into the order of these ranks. Ranks are looked up group by group,
so that tenants that share ids do not get in each other's way. Nothing is assumed of the results
or of what the calls return.

## Main definitions

* `Results.asked` — the groups that are asked for
* `Answered` — what the first calls return
* `Placement`, `Places` — the documents with their groups and ranks, in the order they come out

## Main results

* `Resolution.ofGroups_eq_error_or_ok` — the calls that are made, and how they end
* `places_sorted` — where the returned documents are placed
-/

namespace Faceted

namespace TenantGroup

/-- The documents of a group's hits, in order. -/
def ids (group : TenantGroup) : List DocumentId :=
  group.hits.map RankedHit.id

/-- What is asked for a group. -/
def request (group : TenantGroup) : TenantId × List DocumentId :=
  (group.tenant, group.ids)

/-- The groups with hits, in order. -/
def withHits (groups : List TenantGroup) : List TenantGroup :=
  groups.filter fun group => !group.hits.isEmpty

theorem withHits_cons_of_isEmpty {group : TenantGroup} (h : group.hits.isEmpty = true)
    (rest : List TenantGroup) : withHits (group :: rest) = withHits rest :=
  List.filter_cons_of_neg (by simp [h])

theorem withHits_cons_of_not_isEmpty {group : TenantGroup} (h : ¬ group.hits.isEmpty = true)
    (rest : List TenantGroup) : withHits (group :: rest) = group :: withHits rest :=
  List.filter_cons_of_pos (by simp [h])

/-- A document has a rank in a group if it is one of its hits: that of the last hit on it. -/
theorem rank?_eq_some_iff (group : TenantGroup) (id : DocumentId) (rank : Nat) :
    group.rank? id = some rank ↔
      ∃ earlier hit later, group.hits = earlier ++ hit :: later ∧ hit.id = id ∧ hit.rank = rank ∧
        ∀ other ∈ later, other.id ≠ id := by
  rw [rank?, Option.map_eq_some_iff]
  simp only [List.find?_eq_some_iff_append, beq_iff_eq, Bool.not_eq_true', beq_eq_false_iff_ne]
  constructor
  · rintro ⟨hit, ⟨hid, back, front, hhits, hback⟩, hrank⟩
    refine ⟨front.reverse, hit, back.reverse, ?_, hid, hrank, fun other hother => ?_⟩
    · rw [← List.reverse_reverse group.hits, hhits]
      simp
    · exact hback other (List.mem_reverse.1 hother)
  · rintro ⟨earlier, hit, later, hhits, hid, hrank, hlater⟩
    refine ⟨hit, ⟨hid, later.reverse, earlier.reverse, ?_, fun other hother => ?_⟩, hrank⟩
    · rw [hhits]
      simp
    · exact hlater other (List.mem_reverse.1 hother)

theorem isSome_rank?_iff (group : TenantGroup) (id : DocumentId) :
    (group.rank? id).isSome = true ↔ id ∈ group.ids := by
  rw [rank?, Option.isSome_map, List.find?_isSome, ids, List.mem_map]
  simp only [List.mem_reverse, beq_iff_eq]

end TenantGroup

/-- The groups that are asked for: those with hits, in order. -/
def Results.asked (results : Results) : List TenantGroup :=
  TenantGroup.withHits results.groups

section Calls

variable {δ : Type}

/-- The first calls for some groups are answered, and return these documents. -/
def Answered (turns : Nat → Loader δ) (groups : List TenantGroup) (answers : List (List δ)) :
    Prop :=
  ∀ turn documents, answers[turn]? = some documents →
    ∃ group, groups[turn]? = some group ∧ turns turn group.tenant group.ids = .ok documents

theorem Answered.cons {turns : Nat → Loader δ} {group : TenantGroup} {documents : List δ}
    (hfirst : turns 0 group.tenant group.ids = .ok documents) {rest : List TenantGroup}
    {answers : List (List δ)} (hrest : Answered (fun turn => turns (turn + 1)) rest answers) :
    Answered turns (group :: rest) (documents :: answers) := by
  intro turn returned hreturned
  cases turn with
  | zero =>
    rw [List.getElem?_cons_zero, Option.some.injEq] at hreturned
    exact ⟨group, rfl, hreturned ▸ hfirst⟩
  | succ turn => exact hrest turn returned hreturned

namespace Resolution

variable (idOf : δ → DocumentId)

/-- The calls go through the groups with hits. Either the call that follows some answered ones
fails, and it is the last; or all are answered, and what they return is ranked group by group. -/
theorem ofGroups_eq_error_or_ok (turns : Nat → Loader δ) (groups : List TenantGroup) :
    ∃ answers, Answered turns (TenantGroup.withHits groups) answers ∧
      ((∃ group error, (TenantGroup.withHits groups)[answers.length]? = some group ∧
          turns answers.length group.tenant group.ids = .error error ∧
          ofGroups idOf turns groups =
            { calls :=
                ((TenantGroup.withHits groups).take (answers.length + 1)).map TenantGroup.request
              outcome := .error error }) ∨
        answers.length = (TenantGroup.withHits groups).length ∧
          ofGroups idOf turns groups =
            { calls := (TenantGroup.withHits groups).map TenantGroup.request
              outcome := .ok (((TenantGroup.withHits groups).zip answers).flatMap
                fun answer => rankedOf idOf answer.1 answer.2) }) := by
  -- The turns vary with the groups: those that are left are answered from the next turn on.
  induction groups generalizing turns with
  | nil => exact ⟨[], by simp [Answered], Or.inr ⟨rfl, rfl⟩⟩
  | cons group rest ih =>
    by_cases hempty : group.hits.isEmpty = true
    · rw [TenantGroup.withHits_cons_of_isEmpty hempty, ofGroups, if_pos hempty]
      exact ih turns
    · rw [TenantGroup.withHits_cons_of_not_isEmpty hempty, ofGroups, if_neg hempty]
      have asks : (group.hits.map RankedHit.id) = group.ids := rfl
      simp only [asks]
      rcases hanswer : turns 0 group.tenant group.ids with error | documents
      · refine ⟨[], by simp [Answered], Or.inl ⟨group, error, rfl, hanswer, ?_⟩⟩
        rfl
      · obtain ⟨answers, hanswered, hend⟩ := ih fun turn => turns (turn + 1)
        refine ⟨documents :: answers, hanswered.cons hanswer, ?_⟩
        rcases hend with ⟨failed, error, hfailed, herror, hrun⟩ | ⟨hlength, hrun⟩
        · refine Or.inl ⟨failed, error, hfailed, herror, ?_⟩
          rw [hrun]
          rfl
        · refine Or.inr ⟨congrArg (· + 1) hlength, ?_⟩
          rw [hrun]
          rfl

end Resolution

/-! ### Placing documents -/

/-- A document that came out, the group it was asked for, and the rank it is placed under. -/
structure Placement (δ : Type) where
  group : TenantGroup
  document : δ
  rank : Nat

/-- A placed document as it was returned. -/
def Placement.returned (placement : Placement δ) : TenantGroup × δ :=
  (placement.group, placement.document)

/-- All documents that were returned, each with the group it was asked for,
in the order of return. -/
def allReturned (answers : List (TenantGroup × List δ)) : List (TenantGroup × δ) :=
  answers.flatMap fun answer => answer.2.map (answer.1, ·)

/-- The documents that the calls returned, in the order they come out. -/
structure Places (idOf : δ → DocumentId) (answers : List (TenantGroup × List δ))
    (placements : List (Placement δ)) : Prop where
  /-- What comes out are the returned documents that were hits of the group they were asked for,
  each as often as it was returned. -/
  perm : (placements.map Placement.returned).Perm
    ((allReturned answers).filter fun returned => idOf returned.2 ∈ returned.1.ids)
  /-- A document is placed under the rank of a hit on it in its own group, and of several
  under that of the last. -/
  rank : ∀ placement ∈ placements, ∃ earlier hit later,
    placement.group.hits = earlier ++ hit :: later ∧ hit.id = idOf placement.document ∧
      hit.rank = placement.rank ∧ ∀ other ∈ later, other.id ≠ idOf placement.document
  /-- Ranks do not decrease. -/
  ascending : placements.Pairwise fun first second => first.rank ≤ second.rank
  /-- Documents of one rank keep the order in which they were returned. -/
  stable : ∀ rank : Nat,
    ((placements.filter fun placement => placement.rank = rank).map Placement.returned).Sublist
      (allReturned answers)

section Places

variable (idOf : δ → DocumentId)

/-- Where a returned document belongs, if it was a hit. -/
def placement? (returned : TenantGroup × δ) : Option (Placement δ) :=
  (returned.1.rank? (idOf returned.2)).map fun rank => ⟨returned.1, returned.2, rank⟩

theorem map_returned_filterMap (returned : List (TenantGroup × δ)) :
    (returned.filterMap (placement? idOf)).map Placement.returned =
      returned.filter fun returned => idOf returned.2 ∈ returned.1.ids := by
  induction returned with
  | nil => rfl
  | cons first rest ih =>
    have hit := first.1.isSome_rank?_iff (idOf first.2)
    rw [List.filterMap_cons, List.filter_cons, placement?]
    cases hrank : first.1.rank? (idOf first.2) with
    | none =>
      have hid : idOf first.2 ∉ first.1.ids := by simpa [hrank] using hit
      simp [hid, ih]
    | some rank =>
      have hid : idOf first.2 ∈ first.1.ids := by simpa [hrank] using hit
      simp [hid, ih, Placement.returned]

theorem flatMap_rankedOf (answers : List (TenantGroup × List δ)) :
    (answers.flatMap fun answer => Resolution.rankedOf idOf answer.1 answer.2) =
      ((allReturned answers).filterMap (placement? idOf)).map
        fun placement => (placement.rank, placement.document) := by
  rw [allReturned, List.filterMap_flatMap, List.map_flatMap]
  refine List.flatMap_congr fun answer _ => ?_
  rw [Resolution.rankedOf, List.filterMap_map, List.map_filterMap]
  refine List.filterMap_congr fun document _ => ?_
  rw [Function.comp_apply, placement?, Option.map_map]
  rfl

/-- The returned documents that were hits, sorted by rank, are placed as they should be. -/
theorem places_sorted (answers : List (TenantGroup × List δ)) :
    Places idOf answers
      (((allReturned answers).filterMap (placement? idOf)).mergeSort
        fun first second => decide (first.rank ≤ second.rank)) where
  perm := by
    rw [← map_returned_filterMap]
    exact (List.mergeSort_perm _ _).map _
  rank := by
    intro placement hplacement
    rw [List.mem_mergeSort, List.mem_filterMap] at hplacement
    obtain ⟨returned, -, hreturned⟩ := hplacement
    obtain ⟨rank, hrank, rfl⟩ := Option.map_eq_some_iff.1 hreturned
    exact (returned.1.rank?_eq_some_iff (idOf returned.2) rank).1 hrank
  ascending := pairwise_mergeSort_rank Placement.rank _
  stable := by
    intro rank
    rw [filter_mergeSort_rank Placement.rank]
    have kept := map_returned_filterMap idOf (allReturned answers)
    exact (List.filter_sublist.map _).trans (kept ▸ List.filter_sublist)

theorem byRank_flatMap_rankedOf (answers : List (TenantGroup × List δ)) :
    byRank (answers.flatMap fun answer => Resolution.rankedOf idOf answer.1 answer.2) =
      (((allReturned answers).filterMap (placement? idOf)).mergeSort
        fun first second => decide (first.rank ≤ second.rank)).map Placement.document := by
  have sorted := List.map_mergeSort (r := fun first second => decide (first.rank ≤ second.rank))
    (s := fun first second => decide (first.1 ≤ second.1))
    (f := fun placement : Placement δ => (placement.rank, placement.document))
    (l := (allReturned answers).filterMap (placement? idOf)) fun _ _ _ _ => rfl
  rw [byRank, flatMap_rankedOf, ← sorted, List.map_map]
  rfl

end Places

/-- The calls that are made for results, and the documents that come out of them. -/
theorem resolveInTurn_eq_error_or_ok (idOf : δ → DocumentId) (turns : Nat → Loader δ)
    (results : Results) :
    ∃ answers, Answered turns results.asked answers ∧
      ((∃ group error, results.asked[answers.length]? = some group ∧
          turns answers.length group.tenant group.ids = .error error ∧
          resolveInTurn idOf turns results =
            { calls := (results.asked.take (answers.length + 1)).map TenantGroup.request
              outcome := .error error }) ∨
        answers.length = results.asked.length ∧ ∃ placements,
          Places idOf (results.asked.zip answers) placements ∧
          resolveInTurn idOf turns results =
            { calls := results.asked.map TenantGroup.request
              outcome := .ok (placements.map Placement.document) }) := by
  obtain ⟨answers, hanswered, hend⟩ := Resolution.ofGroups_eq_error_or_ok idOf turns results.groups
  refine ⟨answers, hanswered, ?_⟩
  rw [resolveInTurn]
  rcases hend with ⟨group, error, hgroup, herror, hrun⟩ | ⟨hlength, hrun⟩
  · refine Or.inl ⟨group, error, hgroup, herror, ?_⟩
    rw [hrun]
    rfl
  · refine Or.inr ⟨hlength, _, places_sorted idOf _, ?_⟩
    rw [hrun, ← byRank_flatMap_rankedOf]
    rfl

end Calls

end Faceted
