import Faceted.Backend.Response
import Faceted.Proofs.Entries
import Faceted.Proofs.Search.Grouping

/-!
# From a response to results

A response becomes a reply, and the reply is decoded to results. Each of the two steps may leave
something out: fragments that are no strings, fields without fragments, aggregations that are not by
terms or count nothing. This file says what comes of a response through both steps: every hit is
held once, for the tenant that its document names, with the first string of each highlighted field,
and every declared aggregation has the counts that the response has under its name.

## Main definitions

* `ResponseHit.owner` — the tenant that a hit belongs to
* `ResponseHit.shown` — what is shown of a hit's highlights
* `Results.Reports` — results hold the hits of a response by tenant

## Main results

* `Reply.get?_aggregations_ofResponse` — an aggregation is read from what is under its name
* `decode_response_reports` — what a response with a total and hits is decoded to
-/

namespace Faceted

/-! ### One hit -/

/-- The first string of a highlighted field: the value itself, or the first item of an array that is
one. -/
def Json.firstText? : Json → Option String
  | .text s => some s
  | .array items => items.findSome? text?
  | _ => none

namespace ResponseHit

/-- The tenant that a hit belongs to: the one that a field of its document names, by a string or a
number, or else `fallback`. -/
def owner (field : String) (fallback : TenantId) (hit : ResponseHit) : TenantId :=
  match hit.sourceValue? field with
  | some (.text name) => ⟨name⟩
  | some (.number number) => ⟨number.text⟩
  | _ => fallback

/-- What is shown of a hit's highlights: the first string of each field that has one. -/
def shown (hit : ResponseHit) : List Highlight :=
  (hit.highlight.getD []).filterMap fun entry => entry.2.firstText?.map (Highlight.mk entry.1)

variable (field : String) (fallback : TenantId) (hit : ResponseHit)

theorem tenant_ofResponse :
    (Hit.ofResponse field hit).tenant.getD fallback = hit.owner field fallback := by
  rw [Hit.ofResponse, owner]
  cases hit.sourceValue? field with
  | none => rfl
  | some value => cases value <;> rfl

theorem head?_fragmentsOf (value : Json) : (fragmentsOf value).head? = value.firstText? := by
  cases value with
  | array items => exact List.head?_filterMap
  | text text => rfl
  | null | bool | number | object => rfl

theorem firstOfEach_ofResponse :
    Highlight.firstOfEach (Hit.ofResponse field hit).highlights = hit.shown := by
  rw [← Hit.firstFragments_eq, Hit.firstFragments, Hit.ofResponse, List.filterMap_map, shown]
  refine List.filterMap_congr fun entry _ => ?_
  rw [Function.comp_apply, head?_fragmentsOf]

/-- An integer and the text of it name one tenant. -/
theorem owner_eq_of_integer {field : String} {fallback : TenantId} {hit other : ResponseHit}
    {n : Int} (hnumber : hit.sourceValue? field = some (.number (.integer n)))
    (htext : other.sourceValue? field = some (.text (toString n))) :
    hit.owner field fallback = other.owner field fallback := by
  simp only [owner, hnumber, htext, Number.text]

end ResponseHit

/-! ### Hits by tenant -/

/-- Results hold the hits of a response by tenant; `field` names the tenant of a document, and
`fallback` is the tenant of hits that name none. -/
structure Results.Reports (results : Results) (field : String) (fallback : TenantId)
    (hits : List ResponseHit) : Prop where
  /-- The ids are those of the hits in order, repetitions included. -/
  ids : results.ids = hits.map fun hit => ⟨hit.id⟩
  /-- Every place is the rank of exactly one hit in all groups. -/
  ranks :
    ((results.groups.flatMap TenantGroup.hits).map RankedHit.rank).Perm (List.range hits.length)
  /-- What is held under a rank is the hit at that place, in the group of the
  tenant it belongs to. -/
  member : ∀ group ∈ results.groups, ∀ member ∈ group.hits,
    ∃ hit, hits[member.rank]? = some hit ∧ group.tenant = hit.owner field fallback ∧
      member.id = ⟨hit.id⟩ ∧ member.highlights = hit.shown
  /-- No tenant has two groups. -/
  tenants : (results.groups.map TenantGroup.tenant).Nodup

section Reports

variable {results : Results} {field : String} {fallback : TenantId} {hits : List ResponseHit}

theorem Results.Arranges.reports
    (h : results.Arranges fallback (hits.map (Hit.ofResponse field))) :
    results.Reports field fallback hits where
  ids := by
    rw [h.ids, List.map_map]
    rfl
  ranks := by
    have ranks := h.ranks
    rwa [List.length_map] at ranks
  member group hgroup member hmember := by
    obtain ⟨replied, hreplied, htenant, hid, hhighlights⟩ := h.member group hgroup member hmember
    rw [List.getElem?_map, Option.map_eq_some_iff] at hreplied
    obtain ⟨hit, hhit, rfl⟩ := hreplied
    rw [ResponseHit.tenant_ofResponse] at htenant
    rw [ResponseHit.firstOfEach_ofResponse] at hhighlights
    exact ⟨hit, hhit, htenant, hid, hhighlights⟩
  tenants := h.tenants

/-- A place is the rank of a hit in the group of the tenant that the hit belongs to. -/
theorem Results.Reports.exists_group (h : results.Reports field fallback hits) {place : Nat}
    {hit : ResponseHit} (hhit : hits[place]? = some hit) :
    ∃ group ∈ results.groups, group.tenant = hit.owner field fallback ∧
      place ∈ group.hits.map RankedHit.rank := by
  obtain ⟨group, hgroup, member, hmember, rfl⟩ :=
    exists_member_of_ranks h.ranks (List.getElem?_eq_some_iff.1 hhit).1
  -- The hit that this member stands for is the one at its rank, and so the given one.
  obtain ⟨same, hsame, htenant, -⟩ := h.member group hgroup member hmember
  obtain rfl := Option.some.inj (hsame.symm.trans hhit)
  exact ⟨group, hgroup, htenant, List.mem_map_of_mem hmember⟩

/-- Hits that belong to one tenant are in one group. -/
theorem Results.Reports.exists_common_group (h : results.Reports field fallback hits)
    {place other : Nat} {first second : ResponseHit} (hfirst : hits[place]? = some first)
    (hsecond : hits[other]? = some second)
    (howner : first.owner field fallback = second.owner field fallback) :
    ∃ group ∈ results.groups, place ∈ group.hits.map RankedHit.rank ∧
      other ∈ group.hits.map RankedHit.rank := by
  obtain ⟨group, hgroup, htenant, hplace⟩ := h.exists_group hfirst
  obtain ⟨otherGroup, hotherGroup, hotherTenant, hother⟩ := h.exists_group hsecond
  have htenants : group.tenant = otherGroup.tenant := by
    rw [htenant, hotherTenant, howner]
  -- No tenant has two groups.
  obtain rfl := List.inj_on_of_nodup_map h.tenants hgroup hotherGroup htenants
  exact ⟨group, hgroup, hplace, hother⟩

end Reports

/-! ### Aggregations -/

/-- An aggregation is read from what the response has under its name. -/
theorem Reply.get?_aggregations_ofResponse (field : String) (response : Response) (name : String) :
    Entries.get? (ofResponse field response).aggregations name =
      (response.terms? name).map fun buckets => buckets.map Bucket.toCount := by
  have named : (ofResponse field response).aggregations =
      (response.aggregations.getD []).filterMap fun entry =>
        ((response.terms? entry.1).map fun buckets => buckets.map Bucket.toCount).map
          (entry.1, ·) := by
    simp only [ofResponse, Option.map_map, Function.comp_def]
  rw [named, Entries.get?_filterMap_name _ fun name =>
    (response.terms? name).map fun buckets => buckets.map Bucket.toCount]
  split
  next h => rfl
  next h =>
    -- Without anything under its name there is nothing to read either.
    have missing := (Entries.get?_eq_none_iff _ _).2 h
    rw [Response.terms?]
    cases hresponse : response.aggregations with
    | none => rfl
    | some aggregations =>
      rw [hresponse, Option.getD_some] at missing
      rw [Option.bind_some, missing]
      rfl

theorem Response.terms?_eq_some_iff (response : Response) (name : String) (buckets : List Bucket) :
    response.terms? name = some buckets ↔
      ∃ aggregations value, response.aggregations = some aggregations ∧
        Entries.get? aggregations name = some value ∧ Terms.read? value = some buckets := by
  simp only [terms?, Option.bind_eq_some_iff, exists_and_left]

/-- A response with a total and hits is decoded, and the results report it: the total in either of
its forms; every hit once, under its place as rank and for the tenant that its document names, so
that hits that name a tenant by an integer and by the text of it share a group; of each highlighted
field the first string; and for a name the counts of the buckets that the response has under it, if
the name is declared and there are any. -/
theorem decode_response_reports {response : Response} {listed : HitsSection} {total : Total}
    {hits : List ResponseHit} (hlisted : response.hits = some listed)
    (htotal : listed.total = some total) (hhits : listed.hits = some hits) (field : String)
    (declared : List String) (fallback : TenantId) :
    ∃ results, (Reply.ofResponse field response).decode declared fallback = .ok results ∧
      (∀ count, (total = .count count ∨ ∃ relation, total = .detailed count relation) →
        results.total = count) ∧
      results.Reports field fallback hits ∧
      (∀ (n : Int) (place other : Nat) (first second : ResponseHit),
        hits[place]? = some first → hits[other]? = some second →
          first.sourceValue? field = some (.number (.integer n)) →
            second.sourceValue? field = some (.text (toString n)) →
              ∃ group ∈ results.groups, place ∈ group.hits.map RankedHit.rank ∧
                other ∈ group.hits.map RankedHit.rank) ∧
      ∀ name counts, Entries.get? results.aggregations name = some counts ↔
        name ∈ declared ∧ ∃ aggregations value buckets, response.aggregations = some aggregations ∧
          Entries.get? aggregations name = some value ∧ Terms.read? value = some buckets ∧
          buckets ≠ [] ∧ counts = buckets.map fun bucket => ⟨bucket.label, bucket.count⟩ := by
  have repliedTotal : (Reply.ofResponse field response).total = some total.value := by
    simp [Reply.ofResponse, hlisted, htotal]
  have repliedHits :
      (Reply.ofResponse field response).hits = some (hits.map (Hit.ofResponse field)) := by
    simp [Reply.ofResponse, hlisted, hhits]
  have reports := (Reply.arranges_decoded fallback (hits.map (Hit.ofResponse field)) total.value
    ((Reply.ofResponse field response).declaredCounts declared)).reports
  refine ⟨_, Reply.decode_of_hits declared fallback repliedTotal repliedHits, ?_, reports,
    fun n place other first second hfirst hsecond hnumber htext => ?_, fun name counts => ?_⟩
  · rintro count (rfl | ⟨relation, rfl⟩)
    · rfl
    · rfl
  · exact reports.exists_common_group hfirst hsecond (ResponseHit.owner_eq_of_integer hnumber htext)
  · rw [Reply.get?_declaredCounts, Reply.get?_aggregations_ofResponse, Option.map_eq_some_iff]
    simp only [Response.terms?_eq_some_iff]
    -- Each bucket has its count, so there are no counts exactly if there are no buckets.
    constructor
    · rintro ⟨hdeclared, ⟨buckets, ⟨aggregations, value, haggregations, hvalue, hread⟩, rfl⟩, hne⟩
      exact ⟨hdeclared, aggregations, value, buckets, haggregations, hvalue, hread,
        mt (congrArg (List.map Bucket.toCount)) hne, rfl⟩
    · rintro ⟨hdeclared, aggregations, value, buckets, haggregations, hvalue, hread, hne, rfl⟩
      exact ⟨hdeclared, ⟨buckets, ⟨aggregations, value, haggregations, hvalue, hread⟩, rfl⟩,
        mt List.map_eq_nil_iff.1 hne⟩

/-- A hit with a number, one without a document and one with the text of the number, the first of
them with a highlighted field that begins with no string and one that has none; years are counted,
and an aggregation without buckets is left out. -/
theorem decode_response_reports_years :
    let hits : List ResponseHit :=
      [{ id := "a", index := none, score := none, source := some [("blog_id", .nat 2)]
         highlight := some [("title", .array [.null, .text "red"]), ("body", .array [])] },
        { id := "b", index := none, score := none, source := none, highlight := none },
        { id := "a", index := none, score := none, source := some [("blog_id", .text "2")]
          highlight := none }]
    let listed : HitsSection := { total := some (.detailed 3 (some "eq")), hits := some hits }
    let year : Json := .object [("key", .nat 2024), ("doc_count", .nat 2)]
    let response : Response :=
      { took := none, timedOut := false, hits := some listed
        aggregations := some
          [("stats", .object [("value", .nat 7)]), ("year", .object [("buckets", .array [year])])] }
    response.hits = some listed ∧ listed.total = some (.detailed 3 (some "eq")) ∧
      listed.hits = some hits ∧
      ∃ results, (Reply.ofResponse "blog_id" response).decode ["stats", "year"] ⟨"1"⟩ =
        .ok results ∧
        results.total = 3 ∧
        (∃ group ∈ results.groups, 0 ∈ group.hits.map RankedHit.rank ∧
          2 ∈ group.hits.map RankedHit.rank) ∧
        results.groups =
          [⟨⟨"2"⟩, [⟨⟨"a"⟩, 0, [⟨"title", "red"⟩]⟩, ⟨⟨"a"⟩, 2, []⟩]⟩, ⟨⟨"1"⟩, [⟨⟨"b"⟩, 1, []⟩]⟩] ∧
        results.aggregations = [("year", [⟨"2024", 2⟩])] := by
  intro hits listed year response
  have hlisted : response.hits = some listed := rfl
  have htotal : listed.total = some (.detailed 3 (some "eq")) := rfl
  have hhits : listed.hits = some hits := rfl
  obtain ⟨results, hdecoded, htotal, -, hcommon, -⟩ :=
    decode_response_reports hlisted htotal hhits "blog_id" ["stats", "year"] ⟨"1"⟩
  refine ⟨rfl, rfl, rfl, results, hdecoded, htotal 3 (Or.inr ⟨_, rfl⟩),
    hcommon 2 0 2 _ _ rfl rfl rfl rfl, ?_⟩
  cases hdecoded
  exact ⟨rfl, rfl⟩

end Faceted
