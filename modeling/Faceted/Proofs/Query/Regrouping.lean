import Faceted.Json.Overlay
import Faceted.Proofs.Appearance
import Faceted.Proofs.Query.Gathering

/-!
# Grouping in parts and grouping again

Clauses are gathered one after the other into the groups of their kinds, whatever the order in which
the kinds take turns. Two things follow from where a clause is put. Clauses that come kind by kind
are gathered kind by kind, so that groups gathered once are not rearranged when their members are
gathered again. And as long as clauses of one kind keep their order, it makes no difference to their
group how the clauses of other kinds come in between, so that clauses from many parts are gathered
as they would be part by part.

## Main definitions

* `ClauseGroup.IsStableGrouping` — groups hold a list of clauses, kind by kind

## Main results

* `isStableGrouping_iff` — a list of clauses has one stable grouping, and gathering finds it
* `gather_append_of_new` — clauses of new kinds are gathered for themselves
* `gather_flatMap_clauses` — uniform groups of distinct kinds are gathered again from their members
* `membersOf_gather_concat`, `map_kind_gather_concat` — gathering the clauses of many parts
* `gather_laws` — all of this together
-/

namespace Faceted

namespace ClauseGroup

/-! ### The stable grouping -/

/-- Groups hold the clauses of a list, kind by kind and in their order. -/
structure IsStableGrouping (clauses : List Clause) (groups : List ClauseGroup) : Prop where
  /-- No two groups are of one kind. -/
  distinct : (groups.map ClauseGroup.kind).Nodup
  /-- There is a group for every kind that appears. -/
  kinds : ∀ kind, kind ∈ groups.map ClauseGroup.kind ↔ kind ∈ clauses.map Clause.kind
  /-- Of two kinds, the one that appears first has its group first. -/
  order : (groups.map ClauseGroup.kind).Pairwise (FirstBefore (clauses.map Clause.kind))
  /-- A group has the clauses of its kind, in order. -/
  members : ∀ group ∈ groups, group.clauses = clauses.filter fun clause => clause.kind = group.kind
  nonempty : ∀ group ∈ groups, group.clauses ≠ []
  /-- Every group asks for a match of one of its members at least. -/
  threshold : ∀ group ∈ groups, ∃ count, 0 < count ∧
    group.toJson.at? ["bool", "minimum_should_match"] = some (.nat count)
  /-- Together the groups have the clauses of the list, each as often. -/
  perm : (groups.flatMap ClauseGroup.clauses).Perm clauses

section StableGrouping

variable {clauses : List Clause} {groups : List ClauseGroup}

/-- A query asks for as many matches as a group has members. -/
theorem at?_threshold_toJson (group : ClauseGroup) :
    group.toJson.at? ["bool", "minimum_should_match"] = some (.nat group.clauses.length) :=
  rfl

theorem isStableGrouping_gather (clauses : List Clause) :
    IsStableGrouping clauses (gather clauses) where
  distinct := nodup_kind_gather clauses
  kinds kind := by rw [map_kind_gather, List.mem_eraseDups]
  order := by
    rw [map_kind_gather]
    exact pairwise_eraseDups _
  members _ := eq_filter_of_mem_gather
  nonempty _ hgroup := (uniform_of_mem_gather hgroup).nonempty
  threshold group hgroup :=
    ⟨group.clauses.length, List.length_pos_of_ne_nil (uniform_of_mem_gather hgroup).nonempty,
      at?_threshold_toJson group⟩
  perm := perm_gather clauses

/-- The kinds of a stable grouping are those of the clauses, thinned out. -/
theorem IsStableGrouping.map_kind (h : IsStableGrouping clauses groups) :
    groups.map ClauseGroup.kind = (clauses.map Clause.kind).eraseDups := by
  apply eq_of_perm_of_firstBefore h.order (pairwise_eraseDups _)
  rw [List.perm_ext_iff_of_nodup h.distinct (nodup_eraseDups _)]
  intro kind
  rw [h.kinds, List.mem_eraseDups]

/-- Groups with the clauses of their kinds are told by their kinds. -/
theorem eq_map_kind (h : ∀ group ∈ groups,
      group.clauses = clauses.filter fun clause => clause.kind = group.kind) :
    groups = (groups.map ClauseGroup.kind).map fun kind =>
      ⟨kind, clauses.filter fun clause => clause.kind = kind⟩ := by
  rw [List.map_map]
  refine (List.map_id' groups).symm.trans (List.map_congr_left fun group hgroup => ?_)
  rw [Function.comp_apply, ← h group hgroup]

/-- A list of clauses has one stable grouping, and gathering finds it. -/
theorem isStableGrouping_iff : IsStableGrouping clauses groups ↔ groups = gather clauses := by
  constructor
  · intro h
    -- On both sides the kinds stand in the same order, and each kind determines its group.
    rw [eq_map_kind h.members, h.map_kind, ← map_kind_gather]
    exact (eq_map_kind fun _ => eq_filter_of_mem_gather).symm
  · rintro rfl
    exact isStableGrouping_gather clauses

end StableGrouping

/-! ### Clauses that come kind by kind -/

section Again

variable {clauses : List Clause} {groups : List ClauseGroup}

/-- A clause goes past the groups of other kinds. -/
theorem place_append_of_notMem {clause : Clause} (hkind : clause.kind ∉ groups.map ClauseGroup.kind)
    (more : List ClauseGroup) : place (groups ++ more) clause = groups ++ place more clause := by
  induction groups with
  | nil => rfl
  | cons group rest ih =>
    rw [List.map_cons, List.mem_cons, not_or] at hkind
    rw [List.cons_append, place, if_neg (Ne.symm hkind.1), ih hkind.2, List.cons_append]

theorem foldl_place_append_of_notMem
    (hkinds : ∀ clause ∈ clauses, clause.kind ∉ groups.map ClauseGroup.kind)
    (more : List ClauseGroup) :
    clauses.foldl place (groups ++ more) = groups ++ clauses.foldl place more := by
  induction clauses generalizing more with
  | nil => rfl
  | cons clause rest ih =>
    rw [List.forall_mem_cons] at hkinds
    rw [List.foldl_cons, List.foldl_cons, place_append_of_notMem hkinds.1, ih hkinds.2]

/-- Clauses of new kinds are gathered for themselves, behind what there is. -/
theorem gather_append_of_new {first second : List Clause}
    (hnew : ∀ clause ∈ second, clause.kind ∉ first.map Clause.kind) :
    gather (first ++ second) = gather first ++ gather second := by
  have hkinds : ∀ clause ∈ second, clause.kind ∉ (gather first).map ClauseGroup.kind := by
    intro clause hclause
    rw [map_kind_gather, List.mem_eraseDups]
    exact hnew clause hclause
  calc gather (first ++ second) = second.foldl place (gather first ++ []) := by
        rw [gather, List.foldl_append, List.append_nil, gather]
    _ = gather first ++ gather second := foldl_place_append_of_notMem hkinds []

/-- Further clauses of the kind of a group join it. -/
theorem foldl_place_singleton {kind : ClauseKind} (hkinds : ∀ clause ∈ clauses, clause.kind = kind)
    (held : List Clause) : clauses.foldl place [⟨kind, held⟩] = [⟨kind, held ++ clauses⟩] := by
  induction clauses generalizing held with
  | nil => rw [List.foldl_nil, List.append_nil]
  | cons clause rest ih =>
    rw [List.forall_mem_cons] at hkinds
    rw [List.foldl_cons, place, if_pos hkinds.1.symm, ih hkinds.2, List.append_assoc,
      List.singleton_append]

/-- The members of a uniform group are gathered into this group. -/
theorem Uniform.gather_clauses {group : ClauseGroup} (h : group.Uniform) :
    gather group.clauses = [group] := by
  obtain ⟨kind, clauses⟩ := group
  cases clauses with
  | nil => exact absurd rfl h.nonempty
  | cons clause rest =>
    -- The first member opens the group, and all others find it.
    obtain ⟨rfl, hrest⟩ := List.forall_mem_cons.1 h.kinds
    exact foldl_place_singleton hrest [clause]

/-- Uniform groups of distinct kinds are gathered again from their members. -/
theorem gather_flatMap_clauses (huniform : ∀ group ∈ groups, group.Uniform)
    (hdistinct : (groups.map ClauseGroup.kind).Nodup) :
    gather (groups.flatMap ClauseGroup.clauses) = groups := by
  induction groups with
  | nil => rfl
  | cons group rest ih =>
    obtain ⟨hgroup, hrest⟩ := List.forall_mem_cons.1 huniform
    obtain ⟨hfresh, hdistinct⟩ := List.nodup_cons.1 hdistinct
    have hnew : ∀ clause ∈ rest.flatMap ClauseGroup.clauses,
        clause.kind ∉ group.clauses.map Clause.kind := by
      -- A kind that two groups have members of would be the kind of both.
      intro clause hclause hkind
      obtain ⟨other, hother, hclause⟩ := List.mem_flatMap.1 hclause
      obtain ⟨member, hmember, hkind⟩ := List.mem_map.1 hkind
      rw [hgroup.kinds member hmember, (hrest other hother).kinds clause hclause] at hkind
      exact hfresh (List.mem_map.2 ⟨other, hother, hkind.symm⟩)
    rw [List.flatMap_cons, gather_append_of_new hnew, hgroup.gather_clauses, ih hrest hdistinct,
      List.singleton_append]

end Again

/-! ### Clauses from many parts -/

section Parts

variable (parts : List FacetClauses)

/-- Of each kind, the groups of many parts hold what the groups of each part hold, one after the
other. -/
theorem membersOf_gather_concat (kind : ClauseKind) :
    membersOf kind (gather (FacetClauses.concat parts).alternatives) =
      parts.flatMap fun part => membersOf kind (gather part.alternatives) := by
  rw [membersOf_gather, FacetClauses.concat_eq, List.filter_flatMap]
  simp only [membersOf_gather]

/-- The groups of many parts come in the order in which their kinds first appear in
the groups of the parts. -/
theorem map_kind_gather_concat :
    (gather (FacetClauses.concat parts).alternatives).map ClauseGroup.kind =
      (parts.flatMap fun part => (gather part.alternatives).map ClauseGroup.kind).eraseDups := by
  rw [map_kind_gather, FacetClauses.concat_eq, List.map_flatMap]
  simp only [map_kind_gather]
  exact (eraseDups_flatMap_eraseDups parts fun part => part.alternatives.map Clause.kind).symm

end Parts

/-- The laws of gathering. The groups of a list of clauses are its one stable grouping: there is a
group for each kind, in the order in which the kinds first appear, it has the clauses of this kind
in order, and it is never empty, so that it always asks for a match. What groups hold, gathered
again, gives the same groups. And the groups of clauses from many parts hold, kind by kind, what the
groups of each part hold, one part after the other. -/
theorem gather_laws (clauses : List Clause) (parts : List FacetClauses) :
    (∀ groups, IsStableGrouping clauses groups ↔ groups = gather clauses) ∧
      gather ((gather clauses).flatMap ClauseGroup.clauses) = gather clauses ∧
      (gather (FacetClauses.concat parts).alternatives).map ClauseGroup.kind =
        (parts.flatMap fun part => (gather part.alternatives).map ClauseGroup.kind).eraseDups ∧
      ∀ kind, membersOf kind (gather (FacetClauses.concat parts).alternatives) =
        parts.flatMap fun part => membersOf kind (gather part.alternatives) :=
  ⟨fun _ => isStableGrouping_iff,
    gather_flatMap_clauses (fun _ => uniform_of_mem_gather) (nodup_kind_gather clauses),
    map_kind_gather_concat parts, membersOf_gather_concat parts⟩

/-- Where kinds take turns, the groups are in another order than the clauses. -/
example :
    gather [⟨.range, "price", .nat 10⟩, ⟨.term, "color", .text "red"⟩, ⟨.range, "weight", .nat 1⟩] =
      [⟨.range, [⟨.range, "price", .nat 10⟩, ⟨.range, "weight", .nat 1⟩]⟩,
        ⟨.term, [⟨.term, "color", .text "red"⟩]⟩] := rfl

end ClauseGroup

end Faceted
