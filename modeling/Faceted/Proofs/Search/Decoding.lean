import Mathlib.Data.List.Induction
import Faceted.Proofs.Entries
import Faceted.Search.Results

/-!
# What the results of a reply hold

A reply can be decoded exactly if it has a total and a list of hits. The hits then keep their order
and their places: the hit at a position is held, under this position as its rank, for the tenant it
names or for the fallback, with the first fragment of each field that matched. The counts are those
of the declared aggregations that count anything.

## Main definitions

* `Highlight.firstOfEach` — what is shown of highlighted fields
* `Results.Holds` — a hit is among those of a tenant

## Main results

* `decode_of_gap`, `decode_of_hits` — which replies can be decoded, and to what
* `ids_ranked`, `holds_ranked` — the hits of a reply, with their places
* `get?_declaredCounts` — the counts of a reply
-/

namespace Faceted

/-- What is shown of highlighted fields: of each field in turn its first fragment, and nothing of a
field without fragments. -/
def Highlight.firstOfEach : List (String × List String) → List Highlight
  | [] => []
  | (_, []) :: fields => firstOfEach fields
  | (name, text :: _) :: fields => ⟨name, text⟩ :: firstOfEach fields

theorem Hit.firstFragments_eq (hit : Hit) :
    hit.firstFragments = Highlight.firstOfEach hit.highlights := by
  rw [firstFragments]
  induction hit.highlights using Highlight.firstOfEach.induct with
  | case1 => rfl
  | case2 name fields ih => exact ih
  | case3 name text fragments fields ih => exact congrArg (Highlight.mk name text :: ·) ih

/-- A hit is among those of a tenant. -/
def Results.Holds (results : Results) (tenant : TenantId) (hit : RankedHit) : Prop :=
  ∃ group ∈ results.groups, group.tenant = tenant ∧ hit ∈ group.hits

/-! ### Adding hits -/

theorem TenantGroup.exists_mem_place (groups : List TenantGroup) (tenant other : TenantId)
    (hit member : RankedHit) :
    (∃ group ∈ place groups tenant hit, group.tenant = other ∧ member ∈ group.hits) ↔
      (∃ group ∈ groups, group.tenant = other ∧ member ∈ group.hits) ∨
        tenant = other ∧ member = hit := by
  induction groups with
  | nil => simp [place]
  | cons group rest ih =>
    by_cases h : group.tenant = tenant
    · subst h
      simp only [place, if_true, List.mem_cons, exists_eq_or_imp, List.mem_append, List.not_mem_nil,
        or_false, and_or_left]
      exact or_right_comm
    · simp only [place, if_neg h, List.mem_cons, exists_eq_or_imp, ih]
      exact or_assoc.symm

theorem Results.holds_push (results : Results) (tenant other : TenantId) (hit member : RankedHit) :
    (results.push tenant hit).Holds other member ↔
      results.Holds other member ∨ tenant = other ∧ member = hit :=
  TenantGroup.exists_mem_place results.groups tenant other hit member

namespace Reply

section Ranked

variable (fallback : TenantId)

/-- The hits keep their order, repetitions included. -/
theorem ids_ranked (results : Results) (rank : Nat) (hits : List Hit) :
    (ranked fallback results rank hits).ids = results.ids ++ hits.map Hit.id := by
  induction hits generalizing results rank with
  | nil => simp [ranked]
  | cons hit rest ih => simp [ranked, ih, Results.push]

/-- What is held after a list of hits is what was held before, and each hit of the list under its
place as rank, for the tenant it names or for the fallback. -/
theorem holds_ranked (results : Results) (rank : Nat) (hits : List Hit) (tenant : TenantId)
    (member : RankedHit) :
    (ranked fallback results rank hits).Holds tenant member ↔
      results.Holds tenant member ∨
        ∃ position hit, hits[position]? = some hit ∧ hit.tenant.getD fallback = tenant ∧
          member = ⟨hit.id, rank + position, Highlight.firstOfEach hit.highlights⟩ := by
  induction hits generalizing results rank with
  | nil => simp [ranked]
  | cons first rest ih =>
    rw [ranked, ih, Results.holds_push, or_assoc, Hit.firstFragments_eq]
    refine or_congr Iff.rfl ?_
    -- The first hit is at place zero, and the places of the others are one more than in the rest.
    constructor
    · rintro (⟨htenant, hmember⟩ | ⟨position, hit, hhit, htenant, hmember⟩)
      · exact ⟨0, first, rfl, htenant, hmember⟩
      · exact ⟨position + 1, hit, hhit, htenant, by rw [hmember, Nat.add_right_comm, Nat.add_assoc]⟩
    · rintro ⟨position, hit, hhit, htenant, hmember⟩
      cases position with
      | zero =>
        obtain rfl : first = hit := by simpa using hhit
        exact Or.inl ⟨htenant, hmember⟩
      | succ position =>
        exact Or.inr ⟨position, hit, by simpa using hhit, htenant,
          by rw [hmember, Nat.add_right_comm, Nat.add_assoc]⟩

end Ranked

/-! ### Counts -/

section Counts

variable (reply : Reply)

theorem declaredCounts_concat (declared : List String) (last : String) :
    reply.declaredCounts (declared ++ [last]) =
      match Entries.get? reply.aggregations last with
      | some (bucket :: buckets) =>
        Entries.put (reply.declaredCounts declared) last (bucket :: buckets)
      | _ => reply.declaredCounts declared := by
  rw [declaredCounts, List.foldl_append]
  rfl

/-- Only a declared aggregation that counts anything has counts, and those are the counts of the
reply. -/
theorem get?_declaredCounts (declared : List String) (name : String) (counts : List BucketCount) :
    Entries.get? (reply.declaredCounts declared) name = some counts ↔
      name ∈ declared ∧ Entries.get? reply.aggregations name = some counts ∧ counts ≠ [] := by
  -- Names are taken from the front, so that the last one is the last to be written.
  induction declared using List.reverseRecOn with
  | nil => simp [declaredCounts]
  | append_singleton declared last ih =>
    rw [declaredCounts_concat, List.mem_append, List.mem_singleton]
    split
    next bucket buckets hbuckets =>
      by_cases hname : name = last
      · subst hname
        rw [Entries.get?_put_self, hbuckets, Option.some.injEq]
        constructor
        · rintro rfl
          exact ⟨Or.inr rfl, rfl, List.cons_ne_nil _ _⟩
        · rintro ⟨-, h, -⟩
          exact h
      · rw [Entries.get?_put_of_ne _ _ hname, ih, or_iff_left hname]
    next hempty =>
      rw [ih]
      constructor
      · intro h
        exact ⟨Or.inl h.1, h.2⟩
      · rintro ⟨hmem, hcounts, hne⟩
        refine ⟨hmem.resolve_right ?_, hcounts, hne⟩
        -- The last name counts nothing in this reply, so it is not the one that has counts.
        rintro rfl
        obtain ⟨bucket, buckets, rfl⟩ := List.exists_cons_of_ne_nil hne
        exact hempty bucket buckets hcounts

/-- No aggregation is counted twice. -/
theorem nodup_keys_declaredCounts (declared : List String) :
    (Entries.keys (reply.declaredCounts declared)).Nodup := by
  induction declared using List.reverseRecOn with
  | nil => exact List.nodup_nil
  | append_singleton declared last ih =>
    rw [declaredCounts_concat]
    split
    next => exact Entries.nodup_keys_put ih _ _
    next => exact ih

end Counts

/-! ### Which replies can be decoded -/

section Decode

variable {reply : Reply} (declared : List String) (fallback : TenantId)

theorem decode_of_gap (h : reply.total = none ∨ reply.hits = none) :
    ∃ gap, reply.decode declared fallback = .error gap := by
  unfold decode
  rcases htotal : reply.total with _ | total
  · exact ⟨.total, rfl⟩
  · rcases hhits : reply.hits with _ | hits
    · exact ⟨.hits, rfl⟩
    · simp [htotal, hhits] at h

theorem decode_of_hits {total : Nat} {hits : List Hit} (htotal : reply.total = some total)
    (hhits : reply.hits = some hits) :
    reply.decode declared fallback =
      .ok { ranked fallback {} 0 hits with
        total := total, aggregations := reply.declaredCounts declared } := by
  simp only [decode, htotal, hhits]

end Decode

end Reply

end Faceted
