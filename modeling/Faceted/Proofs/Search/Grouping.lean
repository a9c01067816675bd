import Faceted.Proofs.Search.Decoding
import Faceted.Proofs.Sort
import Faceted.Proofs.Split

/-!
# How the hits of a reply are grouped

Decoding a reply goes through its hits in order and puts each into the group of its tenant. What
comes out is the stable split of the hits by tenant, where a hit that names no tenant belongs to the
fallback and shares a group with the hits that name it. Tenants may alternate and documents may
repeat: no hit is lost, doubled or moved to another tenant, and sorting the hits of all groups by
rank gives back the hits of the reply.

## Main definitions

* `Reply.placed` — the hits of a reply, each with its tenant and its place
* `Results.Arranges` — results hold the hits of a reply by tenant
* `Results.OfReply` — results have the total, the hits and the counts of a reply

## Main results

* `Reply.groups_ranked` — the groups are the stable split of the hits
* `decode_arranges` — every reply with a total and hits is decoded to results that hold its hits
-/

namespace Faceted

namespace TenantGroup

/-- The hits of a group, each with the group's tenant. -/
def members (group : TenantGroup) : List (TenantId × RankedHit) :=
  group.hits.map (group.tenant, ·)

/-- The group of a part of a split. -/
def ofPart (part : TenantId × List (TenantId × RankedHit)) : TenantGroup :=
  ⟨part.1, part.2.map Prod.snd⟩

/-- Hits that are placed one after the other end up in the stable split by tenant. -/
theorem foldl_place (placed : List (TenantId × RankedHit)) :
    placed.foldl (fun groups placed => place groups placed.1 placed.2) [] =
      (splitByKey Prod.fst placed).map ofPart := by
  refine foldl_eq_map_splitByKey ofPart (fun _ => rfl) (fun part rest placed => ?_) placed
  rw [place, ofPart, ofPart, List.map_append]
  rfl

theorem members_ofPart {items : List (TenantId × RankedHit)}
    {part : TenantId × List (TenantId × RankedHit)} (h : part ∈ splitByKey Prod.fst items) :
    (ofPart part).members = part.2 := by
  -- All items of a part have its key, so that writing the key over them changes nothing.
  have same : ∀ item ∈ part.2, (part.1, item.2) = item := by
    intro item hitem
    rw [eq_filter_of_mem_splitByKey h, List.mem_filter, decide_eq_true_eq] at hitem
    rw [← hitem.2]
  rw [members, ofPart, List.map_map]
  exact (List.map_congr_left same).trans (List.map_id' part.2)

end TenantGroup

namespace Reply

/-- The hits of a list as they are held: each for the tenant it names or for the fallback,
with its place as rank. -/
def placed (fallback : TenantId) (rank : Nat) (hits : List Hit) : List (TenantId × RankedHit) :=
  (hits.zipIdx rank).map fun entry =>
    (entry.1.tenant.getD fallback,
      ⟨entry.1.id, entry.2, Highlight.firstOfEach entry.1.highlights⟩)

section Placed

variable (fallback : TenantId) (hits : List Hit)

theorem mem_placed_iff (placed : TenantId × RankedHit) :
    placed ∈ Reply.placed fallback 0 hits ↔
      ∃ hit, hits[placed.2.rank]? = some hit ∧ placed.1 = hit.tenant.getD fallback ∧
        placed.2.id = hit.id ∧ placed.2.highlights = Highlight.firstOfEach hit.highlights := by
  rw [Reply.placed, List.mem_map]
  constructor
  · rintro ⟨⟨hit, rank⟩, hmem, rfl⟩
    exact ⟨hit, List.mem_zipIdx_iff_getElem?.1 hmem, rfl, rfl, rfl⟩
  · obtain ⟨tenant, id, rank, highlights⟩ := placed
    rintro ⟨hit, hhit, htenant, hid, hhighlights⟩
    refine ⟨(hit, rank), List.mem_zipIdx_iff_getElem?.2 hhit, ?_⟩
    rw [Prod.mk.injEq, RankedHit.mk.injEq]
    exact ⟨htenant.symm, hid.symm, rfl, hhighlights.symm⟩

theorem map_rank_placed :
    (placed fallback 0 hits).map (fun placed => placed.2.rank) = List.range hits.length := by
  rw [placed, List.map_map, List.range_eq_range']
  exact List.zipIdx_map_snd 0 hits

theorem pairwise_placed :
    (placed fallback 0 hits).Pairwise fun first second => first.2.rank < second.2.rank := by
  have ascending := List.pairwise_lt_range (n := hits.length)
  rwa [← map_rank_placed fallback, List.pairwise_map] at ascending

/-- Decoding a list of hits places them one after the other. -/
theorem groups_ranked_eq_foldl (results : Results) (rank : Nat) :
    (ranked fallback results rank hits).groups =
      (placed fallback rank hits).foldl
        (fun groups placed => TenantGroup.place groups placed.1 placed.2) results.groups := by
  induction hits generalizing results rank with
  | nil => rfl
  | cons hit rest ih =>
    rw [ranked, ih, Hit.firstFragments_eq]
    rfl

/-- The groups of a reply are the stable split of its hits by tenant. -/
theorem groups_ranked :
    (ranked fallback {} 0 hits).groups =
      (splitByKey Prod.fst (placed fallback 0 hits)).map TenantGroup.ofPart := by
  rw [groups_ranked_eq_foldl]
  exact TenantGroup.foldl_place _

end Placed

end Reply

/-- If every place is the rank of exactly one hit, then each place is the rank
of a hit of some group. -/
theorem Results.exists_member_of_ranks {results : Results} {count place : Nat}
    (hranks : ((results.groups.flatMap TenantGroup.hits).map RankedHit.rank).Perm
      (List.range count))
    (hplace : place < count) :
    ∃ group ∈ results.groups, ∃ member ∈ group.hits, member.rank = place := by
  rw [← List.mem_range, ← hranks.mem_iff] at hplace
  obtain ⟨member, hmember, hrank⟩ := List.mem_map.1 hplace
  obtain ⟨group, hgroup, hmember⟩ := List.mem_flatMap.1 hmember
  exact ⟨group, hgroup, member, hmember, hrank⟩

/-- Results hold the hits of a reply by tenant, if `fallback` is the tenant
of hits that name none. -/
structure Results.Arranges (results : Results) (fallback : TenantId) (hits : List Hit) : Prop where
  /-- The ids are those of the hits in order, repetitions included. -/
  ids : results.ids = hits.map Hit.id
  /-- Every place is the rank of exactly one hit in all groups. -/
  ranks :
    ((results.groups.flatMap TenantGroup.hits).map RankedHit.rank).Perm (List.range hits.length)
  /-- What is held under a rank is the hit at that place, in the group of the tenant it belongs to
  and with the first fragment of each highlighted field. -/
  member : ∀ group ∈ results.groups, ∀ member ∈ group.hits,
    ∃ hit, hits[member.rank]? = some hit ∧ group.tenant = hit.tenant.getD fallback ∧
      member.id = hit.id ∧ member.highlights = Highlight.firstOfEach hit.highlights
  /-- No tenant has two groups. -/
  tenants : (results.groups.map TenantGroup.tenant).Nodup
  nonempty : ∀ group ∈ results.groups, group.hits ≠ []
  /-- A group has a better hit than all later groups. -/
  best : results.groups.Pairwise fun first second =>
    ∃ best ∈ first.hits, ∀ other ∈ second.hits, best.rank < other.rank
  ascending : ∀ group ∈ results.groups,
    group.hits.Pairwise fun first second => first.rank < second.rank
  /-- By rank, the hits of all groups are those of the reply. -/
  merged : (results.groups.flatMap TenantGroup.members).mergeSort
    (fun first second => decide (first.2.rank ≤ second.2.rank)) = Reply.placed fallback 0 hits

namespace Reply

section Arranges

variable {results : Results} {fallback : TenantId} {hits : List Hit}

theorem perm_members
    (hgroups : results.groups =
      (splitByKey Prod.fst (placed fallback 0 hits)).map TenantGroup.ofPart) :
    (results.groups.flatMap TenantGroup.members).Perm (placed fallback 0 hits) := by
  have parts : results.groups.flatMap TenantGroup.members =
      (splitByKey Prod.fst (placed fallback 0 hits)).flatMap Prod.snd := by
    rw [hgroups, List.flatMap_map]
    exact List.flatMap_congr fun part hpart => TenantGroup.members_ofPart hpart
  rw [parts]
  exact perm_splitByKey _ _

theorem mem_placed_of_mem
    (hgroups : results.groups =
      (splitByKey Prod.fst (placed fallback 0 hits)).map TenantGroup.ofPart)
    {group : TenantGroup} (hgroup : group ∈ results.groups) {member : RankedHit}
    (hmember : member ∈ group.hits) : (group.tenant, member) ∈ placed fallback 0 hits :=
  (perm_members hgroups).mem_iff.1
    (List.mem_flatMap.2 ⟨group, hgroup, List.mem_map_of_mem hmember⟩)

/-- Groups that are the stable split of the hits hold the hits. -/
theorem arranges_of_groups (hids : results.ids = hits.map Hit.id)
    (hgroups : results.groups =
      (splitByKey Prod.fst (placed fallback 0 hits)).map TenantGroup.ofPart) :
    results.Arranges fallback hits where
  ids := hids
  ranks := by
    have ranks : (results.groups.flatMap TenantGroup.hits).map RankedHit.rank =
        (results.groups.flatMap TenantGroup.members).map fun placed => placed.2.rank := by
      simp [List.map_flatMap, TenantGroup.members, Function.comp_def]
    rw [ranks, ← map_rank_placed fallback]
    exact (perm_members hgroups).map _
  member group hgroup member hmember :=
    (mem_placed_iff fallback hits _).1 (mem_placed_of_mem hgroups hgroup hmember)
  tenants := by
    have keys := nodup_fst_splitByKey Prod.fst (placed fallback 0 hits)
    rw [hgroups, List.map_map]
    exact keys
  nonempty := by
    rw [hgroups, List.forall_mem_map]
    intro part hpart hnil
    exact ne_nil_of_mem_splitByKey hpart (List.map_eq_nil_iff.1 hnil)
  best := by
    have parts := pairwise_splitByKey (pairwise_placed fallback hits) Prod.fst
    rw [hgroups, List.pairwise_map]
    refine parts.imp ?_
    rintro first second ⟨best, hbest, hsecond⟩
    refine ⟨best.2, List.mem_map_of_mem hbest, ?_⟩
    rw [TenantGroup.ofPart, List.forall_mem_map]
    exact hsecond
  ascending := by
    rw [hgroups, List.forall_mem_map]
    intro part hpart
    rw [TenantGroup.ofPart, List.pairwise_map, eq_filter_of_mem_splitByKey hpart]
    exact (pairwise_placed fallback hits).filter _
  merged := mergeSort_rank_eq_of_perm (fun placed : TenantId × RankedHit => placed.2.rank)
    (perm_members hgroups) (pairwise_placed fallback hits)

/-- The results that a reply is decoded to hold its hits. -/
theorem arranges_decoded (fallback : TenantId) (hits : List Hit) (total : Nat)
    (counts : Entries (List BucketCount)) :
    Results.Arranges { ranked fallback {} 0 hits with total := total, aggregations := counts }
      fallback hits :=
  arranges_of_groups (by simp [ids_ranked]) (groups_ranked fallback hits)

end Arranges

end Reply

/-- Results are those of a reply: they have its total, hold its hits by tenant, and have counts for
the declared aggregations that count anything. -/
structure Results.OfReply (results : Results) (reply : Reply) (declared : List String)
    (fallback : TenantId) : Prop where
  total : reply.total = some results.total
  hits : ∃ hits, reply.hits = some hits ∧ results.Arranges fallback hits
  counts (name : String) (counts : List BucketCount) :
    Entries.get? results.aggregations name = some counts ↔
      name ∈ declared ∧ Entries.get? reply.aggregations name = some counts ∧ counts ≠ []

/-- Unless a reply lacks its total or its hits, it is decoded, and to its results. -/
theorem Reply.exists_ofReply {reply : Reply} (h : ¬ (reply.total = none ∨ reply.hits = none))
    (declared : List String) (fallback : TenantId) :
    ∃ results, reply.decode declared fallback = .ok results ∧
      results.OfReply reply declared fallback := by
  obtain ⟨htotal, hhits⟩ := not_or.1 h
  obtain ⟨total, htotal⟩ := Option.ne_none_iff_exists'.1 htotal
  obtain ⟨hits, hhits⟩ := Option.ne_none_iff_exists'.1 hhits
  refine ⟨_, decode_of_hits declared fallback htotal hhits, ?_⟩
  exact
    { total := htotal
      hits := ⟨hits, hhits, arranges_decoded fallback hits total _⟩
      counts := reply.get?_declaredCounts declared }

/-- A reply with a total and hits is decoded, and the results hold its hits by tenant: every hit
once, under its place as rank, in the group of the tenant it belongs to. -/
theorem decode_arranges {reply : Reply} {total : Nat} {hits : List Hit}
    (htotal : reply.total = some total) (hhits : reply.hits = some hits) (declared : List String)
    (fallback : TenantId) :
    ∃ results, reply.decode declared fallback = .ok results ∧ results.Arranges fallback hits :=
  ⟨_, Reply.decode_of_hits declared fallback htotal hhits,
    Reply.arranges_decoded fallback hits total _⟩

/-- A document without a tenant and the same document of the tenant that is the fallback share a
group, around a hit of another tenant. Of a field with two fragments the first is shown, and nothing
of a field with none. -/
theorem decode_arranges_alternating :
    let hits : List Hit :=
      [{ id := ⟨"a"⟩
         highlights := [("title", ["red", "red hat"]), ("body", []), ("tag", ["hat"])] },
        { id := ⟨"a"⟩, tenant := some ⟨"2"⟩, highlights := [("body", ["a red one"])] },
        { id := ⟨"a"⟩, tenant := some ⟨"1"⟩ }]
    let reply : Reply := { total := some 3, hits := some hits }
    reply.total = some 3 ∧ reply.hits = some hits ∧
      ∃ results, reply.decode [] ⟨"1"⟩ = .ok results ∧ results.Arranges ⟨"1"⟩ hits ∧
        results.groups =
          [⟨⟨"1"⟩, [⟨⟨"a"⟩, 0, [⟨"title", "red"⟩, ⟨"tag", "hat"⟩]⟩, ⟨⟨"a"⟩, 2, []⟩]⟩,
            ⟨⟨"2"⟩, [⟨⟨"a"⟩, 1, [⟨"body", "a red one"⟩]⟩]⟩] := by
  intro hits reply
  have htotal : reply.total = some 3 := rfl
  have hhits : reply.hits = some hits := rfl
  obtain ⟨results, hdecoded, harranges⟩ := decode_arranges htotal hhits [] ⟨"1"⟩
  refine ⟨htotal, hhits, results, hdecoded, harranges, ?_⟩
  cases hdecoded
  rfl

end Faceted
