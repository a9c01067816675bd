import Faceted.Proofs.Appearance
import Faceted.Proofs.Search.Grouping
import Faceted.Proofs.Search.Loading

/-!
# The order in which documents come out

The documents of results are loaded group by group and come out by rank. For the results of a reply
this puts them back into the order of its hits. A document that is hit once comes out at the place
of its hit. A document with several hits comes out once, at the place of the last of them, so that
the order is that of last appearances; it is the order of the best hits exactly if first and last
appearances come in the same order.

## Main definitions

* `Hit.key`, `Placement.key` — the document that a hit is on, and the one that was placed
* `ReturnsEach`, `AnsweredEach` — a call returns one document for each id, and so do all calls

## Main results

* `Places.map_key_eq` — the order of the documents of a reply
* `resolveInTurn_merges` — the calls that are made for results, and what comes of them
* `resolveInTurn_decoded` — the documents of a reply come out in the order of last appearances
-/

namespace Faceted

/-- The document that a hit is on. Ids may be shared by tenants. -/
def Hit.key (fallback : TenantId) (hit : Hit) : TenantId × DocumentId :=
  (hit.tenant.getD fallback, hit.id)

section Keys

variable {δ : Type} (idOf : δ → DocumentId)

/-- The document that was returned: its id, for the tenant it was asked of. -/
def returnedKey (returned : TenantGroup × δ) : TenantId × DocumentId :=
  (returned.1.tenant, idOf returned.2)

/-- The document that was placed. -/
def Placement.key (placement : Placement δ) : TenantId × DocumentId :=
  (placement.group.tenant, idOf placement.document)

/-- A call returns exactly one document for each id, in any order. -/
def ReturnsEach (ids : List DocumentId) (documents : List δ) : Prop :=
  (documents.map idOf).Nodup ∧ ∀ id, id ∈ documents.map idOf ↔ id ∈ ids

/-- The calls for some groups are all answered, each with one document for each id. -/
structure AnsweredEach (groups : List TenantGroup) (answers : List (List δ)) : Prop where
  length : answers.length = groups.length
  each : ∀ {turn : Nat} {documents : List δ}, answers[turn]? = some documents →
    ∃ group, groups[turn]? = some group ∧ ReturnsEach idOf group.ids documents

end Keys

namespace AnsweredEach

variable {δ : Type} {idOf : δ → DocumentId} {groups : List TenantGroup} {answers : List (List δ)}

theorem nodup (h : AnsweredEach idOf groups answers) :
    ∀ documents ∈ answers, (documents.map idOf).Nodup := by
  intro documents hdocuments
  obtain ⟨turn, hturn⟩ := List.mem_iff_getElem?.1 hdocuments
  obtain ⟨group, -, heach⟩ := h.each hturn
  exact heach.1

theorem exists_answer (h : AnsweredEach idOf groups answers) {turn : Nat} {group : TenantGroup}
    (hturn : groups[turn]? = some group) :
    ∃ documents, answers[turn]? = some documents ∧ ReturnsEach idOf group.ids documents := by
  have hanswer : turn < answers.length := h.length ▸ (List.getElem?_eq_some_iff.1 hturn).1
  obtain ⟨same, hsame, heach⟩ := h.each (List.getElem?_eq_getElem hanswer)
  obtain rfl : same = group := Option.some.inj (hsame.symm.trans hturn)
  exact ⟨answers[turn], List.getElem?_eq_getElem hanswer, heach⟩

end AnsweredEach

/-! ### Hits and their groups -/

namespace Results.Arranges

variable {results : Results} {fallback : TenantId} {hits : List Hit}

theorem asked_eq (h : results.Arranges fallback hits) : results.asked = results.groups := by
  refine List.filter_eq_self.2 fun group hgroup => ?_
  simpa using h.nonempty group hgroup

theorem eq_of_tenant_eq (h : results.Arranges fallback hits) {group other : TenantGroup}
    (hgroup : group ∈ results.groups) (hother : other ∈ results.groups)
    (htenant : group.tenant = other.tenant) : group = other :=
  List.inj_on_of_nodup_map h.tenants hgroup hother htenant

/-- Every hit of the reply is held, under its place. -/
theorem exists_member (h : results.Arranges fallback hits) {place : Nat} {hit : Hit}
    (hhit : hits[place]? = some hit) :
    ∃ group ∈ results.groups, ∃ member ∈ group.hits,
      member.rank = place ∧ (group.tenant, member.id) = hit.key fallback := by
  obtain ⟨group, hgroup, member, hmember, rfl⟩ :=
    exists_member_of_ranks h.ranks (List.getElem?_eq_some_iff.1 hhit).1
  obtain ⟨same, hsame, htenant, hid, -⟩ := h.member group hgroup member hmember
  obtain rfl : same = hit := Option.some.inj (hsame.symm.trans hhit)
  exact ⟨group, hgroup, member, hmember, rfl, by rw [htenant, hid, Hit.key]⟩

/-- The documents of a tenant's group are those that its hits are on. -/
theorem mem_ids_iff (h : results.Arranges fallback hits) {group : TenantGroup}
    (hgroup : group ∈ results.groups) (id : DocumentId) :
    id ∈ group.ids ↔ (group.tenant, id) ∈ hits.map (Hit.key fallback) := by
  rw [TenantGroup.ids, List.mem_map]
  constructor
  · rintro ⟨member, hmember, rfl⟩
    obtain ⟨hit, hhit, htenant, hid, -⟩ := h.member group hgroup member hmember
    refine List.mem_map.2 ⟨hit, List.mem_of_getElem? hhit, ?_⟩
    rw [Hit.key, htenant, hid]
  · intro hkey
    obtain ⟨hit, hmem, hkey⟩ := List.mem_map.1 hkey
    obtain ⟨place, hhit⟩ := List.mem_iff_getElem?.1 hmem
    obtain ⟨other, hother, member, hmember, -, hmemberKey⟩ := h.exists_member hhit
    obtain ⟨htenant, hid⟩ := Prod.mk.inj (hmemberKey.trans hkey)
    rw [h.eq_of_tenant_eq hother hgroup htenant] at hmember
    exact ⟨member, hmember, hid⟩

/-- The last hit of a group on a document is the last hit of the reply on it. -/
theorem isLast_rank (h : results.Arranges fallback hits) {group : TenantGroup}
    (hgroup : group ∈ results.groups) {earlier later : List RankedHit} {last : RankedHit}
    (hhits : group.hits = earlier ++ last :: later) (hlater : ∀ other ∈ later, other.id ≠ last.id) :
    IsLast (hits.map (Hit.key fallback)) last.rank (group.tenant, last.id) := by
  have hlast : last ∈ group.hits := hhits ▸ List.mem_append_right _ List.mem_cons_self
  obtain ⟨hit, hhit, htenant, hid, -⟩ := h.member group hgroup last hlast
  refine ⟨?_, fun place hplace => ?_⟩
  · rw [List.getElem?_map, hhit, Option.map_some, Hit.key, htenant, hid]
  · -- Another hit on the document is held by the same group, and not after the last one.
    rw [List.getElem?_map, Option.map_eq_some_iff] at hplace
    obtain ⟨other, hother, hkey⟩ := hplace
    obtain ⟨otherGroup, hotherGroup, member, hmember, rfl, hmemberKey⟩ := h.exists_member hother
    obtain ⟨hsameTenant, hsameId⟩ := Prod.mk.inj (hmemberKey.trans hkey)
    rw [h.eq_of_tenant_eq hotherGroup hgroup hsameTenant, hhits] at hmember
    have ascending := h.ascending group hgroup
    rw [hhits, List.pairwise_append] at ascending
    rcases List.mem_append.1 hmember with hmember | hmember
    · exact Nat.le_of_lt (ascending.2.2 member hmember last List.mem_cons_self)
    · rcases List.mem_cons.1 hmember with rfl | hmember
      · exact Nat.le_refl _
      · exact absurd hsameId (hlater member hmember)

end Results.Arranges

/-! ### Documents and their groups -/

section Returned

variable {δ : Type} {idOf : δ → DocumentId} {groups : List TenantGroup} {answers : List (List δ)}

theorem mem_allReturned_zip {returned : TenantGroup × δ}
    (h : returned ∈ allReturned (groups.zip answers)) :
    ∃ (turn : Nat) (documents : List δ), groups[turn]? = some returned.1 ∧
      answers[turn]? = some documents ∧ returned.2 ∈ documents := by
  obtain ⟨⟨group, documents⟩, hanswer, hreturned⟩ := List.mem_flatMap.1 h
  obtain ⟨document, hdocument, rfl⟩ := List.mem_map.1 hreturned
  obtain ⟨turn, hturn⟩ := List.mem_iff_getElem?.1 hanswer
  rw [List.getElem?_zip_eq_some] at hturn
  exact ⟨turn, documents, hturn.1, hturn.2, hdocument⟩

/-- If the groups are of different tenants and no call returns a document twice, then no document of
a tenant was returned twice. -/
theorem nodup_map_returnedKey (htenants : (groups.map TenantGroup.tenant).Nodup)
    (hlength : answers.length = groups.length)
    (hanswers : ∀ documents ∈ answers, (documents.map idOf).Nodup) :
    ((allReturned (groups.zip answers)).map (returnedKey idOf)).Nodup := by
  have keys (answer : TenantGroup × List δ) :
      (answer.2.map (answer.1, ·)).map (returnedKey idOf) =
        (answer.2.map idOf).map (answer.1.tenant, ·) := by
    rw [List.map_map, List.map_map]
    rfl
  have tenants : (groups.zip answers).Pairwise
      fun first second => first.1.tenant ≠ second.1.tenant := by
    have asked : (groups.zip answers).map Prod.fst = groups :=
      List.map_fst_zip (Nat.le_of_eq hlength.symm)
    rw [← asked, List.map_map] at htenants
    exact List.pairwise_map.1 htenants
  rw [allReturned, List.map_flatMap]
  simp only [keys]
  refine List.nodup_flatMap.2 ⟨fun answer hanswer => ?_, tenants.imp fun {first second} hne => ?_⟩
  · have documents := hanswers answer.2 (List.of_mem_zip hanswer).2
    exact documents.map fun _ _ heq => (Prod.mk.inj heq).2
  · intro key hfirst hsecond
    obtain ⟨id, -, rfl⟩ := List.mem_map.1 hfirst
    obtain ⟨other, -, heq⟩ := List.mem_map.1 hsecond
    exact hne (congrArg Prod.fst heq).symm

end Returned

/-! ### The order of documents -/

section Order

variable {δ : Type} {idOf : δ → DocumentId} {results : Results} {fallback : TenantId}
  {hits : List Hit} {answers : List (List δ)} {placements : List (Placement δ)}

theorem map_key_eq_map_returnedKey (placements : List (Placement δ)) :
    placements.map (Placement.key idOf) =
      (placements.map Placement.returned).map (returnedKey idOf) := by
  rw [List.map_map]
  rfl

/-- What came out was returned by a call for its group. -/
theorem Places.mem_allReturned {answers : List (TenantGroup × List δ)}
    (h : Places idOf answers placements) {placement : Placement δ} (hmem : placement ∈ placements) :
    placement.returned ∈ allReturned answers := by
  have hreturned := h.perm.mem_iff.1 (List.mem_map_of_mem hmem)
  exact (List.mem_filter.1 hreturned).1

theorem group_mem_of_mem_allReturned {returned : TenantGroup × δ}
    (h : returned ∈ allReturned (results.asked.zip answers)) : returned.1 ∈ results.groups := by
  obtain ⟨turn, -, hgroup, -, -⟩ := mem_allReturned_zip h
  exact (List.mem_filter.1 (List.mem_of_getElem? hgroup)).1

theorem Places.group_mem (h : Places idOf (results.asked.zip answers) placements)
    {placement : Placement δ} (hmem : placement ∈ placements) : placement.group ∈ results.groups :=
  group_mem_of_mem_allReturned (h.mem_allReturned hmem)

/-- In the results of a reply, a document is placed where its last hit was. -/
theorem Places.isLast (h : Places idOf (results.asked.zip answers) placements)
    (harranges : results.Arranges fallback hits) {placement : Placement δ}
    (hmem : placement ∈ placements) :
    IsLast (hits.map (Hit.key fallback)) placement.rank (placement.key idOf) := by
  obtain ⟨earlier, last, later, hhits, hid, hrank, hlater⟩ := h.rank placement hmem
  rw [← hid] at hlater
  have hlast := harranges.isLast_rank (h.group_mem hmem) hhits hlater
  rwa [hrank, hid] at hlast

/-- What comes out of the results of a reply are the documents that were hit and returned. -/
theorem Places.mem_map_key_iff (h : Places idOf (results.asked.zip answers) placements)
    (harranges : results.Arranges fallback hits) (key : TenantId × DocumentId) :
    key ∈ placements.map (Placement.key idOf) ↔
      key ∈ hits.map (Hit.key fallback) ∧
        key ∈ (allReturned (results.asked.zip answers)).map (returnedKey idOf) := by
  rw [map_key_eq_map_returnedKey, (h.perm.map _).mem_iff]
  constructor
  · intro hkey
    obtain ⟨returned, hmem, rfl⟩ := List.mem_map.1 hkey
    obtain ⟨hreturned, hid⟩ := List.mem_filter.1 hmem
    exact ⟨(harranges.mem_ids_iff (group_mem_of_mem_allReturned hreturned) _).1
        (of_decide_eq_true hid),
      List.mem_map_of_mem hreturned⟩
  · rintro ⟨hhit, hkey⟩
    obtain ⟨returned, hreturned, rfl⟩ := List.mem_map.1 hkey
    have hid := (harranges.mem_ids_iff (group_mem_of_mem_allReturned hreturned) _).2 hhit
    exact List.mem_map_of_mem (List.mem_filter.2 ⟨hreturned, decide_eq_true hid⟩)

/-- The documents of a reply come out in the order of their last appearances among the hits, if no
call returns one twice. -/
theorem Places.map_key_eq (h : Places idOf (results.asked.zip answers) placements)
    (harranges : results.Arranges fallback hits) (hlength : answers.length = results.asked.length)
    (hanswers : ∀ documents ∈ answers, (documents.map idOf).Nodup) :
    placements.map (Placement.key idOf) =
      (hits.map (Hit.key fallback)).dedup.filter fun key =>
        key ∈ (allReturned (results.asked.zip answers)).map (returnedKey idOf) := by
  have htenants : (results.asked.map TenantGroup.tenant).Nodup :=
    harranges.asked_eq ▸ harranges.tenants
  have distinct : (placements.map (Placement.key idOf)).Nodup := by
    rw [map_key_eq_map_returnedKey, (h.perm.map _).nodup_iff]
    exact (nodup_map_returnedKey htenants hlength hanswers).sublist (List.filter_sublist.map _)
  -- Ranks do not decrease, and no two documents that came out have the same last hit.
  have ordered : (placements.map (Placement.key idOf)).Pairwise
      (LastBefore (hits.map (Hit.key fallback))) := by
    rw [List.pairwise_map]
    refine (h.ascending.and (List.pairwise_map.1 distinct)).imp_of_mem ?_
    rintro first second hfirst hsecond ⟨hle, hne⟩
    have firstLast := h.isLast harranges hfirst
    have secondLast := h.isLast harranges hsecond
    refine ⟨first.rank, second.rank, firstLast, secondLast,
      Nat.lt_of_le_of_ne hle fun heq => hne ?_⟩
    rw [heq] at firstLast
    exact Option.some.inj (firstLast.1.symm.trans secondLast.1)
  refine eq_of_perm_of_lastBefore ordered ((pairwise_dedup _).filter _) ?_
  rw [List.perm_ext_iff_of_nodup distinct ((List.nodup_dedup _).filter _)]
  intro key
  rw [h.mem_map_key_iff harranges, List.mem_filter, List.mem_dedup, decide_eq_true_eq]

/-- What came out for a group was returned by a call for that group. -/
theorem Places.exists_call {turns : Nat → Loader δ}
    (h : Places idOf (results.asked.zip answers) placements)
    (hanswered : Answered turns results.asked answers) {placement : Placement δ}
    (hmem : placement ∈ placements) :
    ∃ turn documents, results.asked[turn]? = some placement.group ∧
      turns turn placement.group.tenant placement.group.ids = .ok documents ∧
      placement.document ∈ documents := by
  obtain ⟨turn, documents, hgroup, hdocuments, hdocument⟩ :=
    mem_allReturned_zip (h.mem_allReturned hmem)
  obtain ⟨group, hsame, hanswer⟩ := hanswered turn documents hdocuments
  obtain rfl : group = placement.group := Option.some.inj (hsame.symm.trans hgroup)
  exact ⟨turn, documents, hgroup, hanswer, hdocument⟩

/-- If all calls are answered with each document, then every document that was hit is returned. -/
theorem Results.Arranges.mem_map_returnedKey (h : results.Arranges fallback hits)
    (heach : AnsweredEach idOf results.asked answers) {key : TenantId × DocumentId}
    (hkey : key ∈ hits.map (Hit.key fallback)) :
    key ∈ (allReturned (results.asked.zip answers)).map (returnedKey idOf) := by
  obtain ⟨hit, hmem, rfl⟩ := List.mem_map.1 hkey
  obtain ⟨place, hhit⟩ := List.mem_iff_getElem?.1 hmem
  obtain ⟨group, hgroup, member, hmember, -, hkey⟩ := h.exists_member hhit
  rw [← h.asked_eq] at hgroup
  obtain ⟨turn, hturn⟩ := List.mem_iff_getElem?.1 hgroup
  obtain ⟨documents, hdocuments, hids⟩ := heach.exists_answer hturn
  obtain ⟨document, hdocument, hid⟩ :=
    List.mem_map.1 ((hids.2 member.id).2 (List.mem_map_of_mem hmember))
  have hzip : (group, documents) ∈ results.asked.zip answers :=
    List.mem_iff_getElem?.2 ⟨turn, List.getElem?_zip_eq_some.2 ⟨hturn, hdocuments⟩⟩
  refine List.mem_map.2 ⟨(group, document), ?_, ?_⟩
  · exact List.mem_flatMap.2 ⟨_, hzip, List.mem_map_of_mem hdocument⟩
  · rw [returnedKey, hid, hkey]

/-- If all calls are answered with each document, then all documents of a reply come out, in the
order of their last appearances among the hits. -/
theorem Places.map_key_eq_dedup (h : Places idOf (results.asked.zip answers) placements)
    (harranges : results.Arranges fallback hits) (heach : AnsweredEach idOf results.asked answers) :
    placements.map (Placement.key idOf) = (hits.map (Hit.key fallback)).dedup := by
  rw [h.map_key_eq harranges heach.length heach.nodup, List.filter_eq_self]
  intro key hkey
  exact decide_eq_true (harranges.mem_map_returnedKey heach (List.mem_dedup.1 hkey))

end Order

/-! ### What comes of resolving results -/

section Resolve

variable {δ : Type} (idOf : δ → DocumentId) (turns : Nat → Loader δ)

/-- Whatever the results and whatever the calls return: there is one call for each group with hits,
in order, until one fails, whose error is the outcome. If none fails, the returned documents that
were hits come out by rank. Where no tenant has two hits on a document, this is the rank of its hit;
and for the results of a reply it is the order of the hits. -/
theorem resolveInTurn_merges (results : Results) :
    ∃ answers, Answered turns results.asked answers ∧
      ((∃ group error, results.asked[answers.length]? = some group ∧
          turns answers.length group.tenant group.ids = .error error ∧
          resolveInTurn idOf turns results =
            { calls := (results.asked.take (answers.length + 1)).map TenantGroup.request
              outcome := .error error }) ∨
        answers.length = results.asked.length ∧ ∃ placements,
          resolveInTurn idOf turns results =
              { calls := results.asked.map TenantGroup.request
                outcome := .ok (placements.map Placement.document) } ∧
            Places idOf (results.asked.zip answers) placements ∧
            ((∀ tenant first second, results.Holds tenant first → results.Holds tenant second →
                first.id = second.id → first = second) →
              ∀ placement ∈ placements, ∀ hit, results.Holds placement.group.tenant hit →
                hit.id = idOf placement.document → placement.rank = hit.rank) ∧
            ∀ fallback hits, results.Arranges fallback hits → (hits.map (Hit.key fallback)).Nodup →
              (∀ documents ∈ answers, (documents.map idOf).Nodup) →
              placements.map (Placement.key idOf) =
                (hits.map (Hit.key fallback)).filter fun key =>
                  key ∈ (allReturned (results.asked.zip answers)).map (returnedKey idOf)) := by
  obtain ⟨answers, hanswered, hend⟩ := resolveInTurn_eq_error_or_ok idOf turns results
  refine ⟨answers, hanswered, ?_⟩
  rcases hend with hfailed | ⟨hlength, placements, hplaces, hrun⟩
  · exact Or.inl hfailed
  · refine Or.inr ⟨hlength, placements, hrun, hplaces, ?_, ?_⟩
    · -- The rank is that of some hit of the group on the document, and there is only one.
      intro hdistinct placement hplacement hit hholds hid
      obtain ⟨earlier, last, later, hhits, hlast, hrank, -⟩ := hplaces.rank placement hplacement
      have held : results.Holds placement.group.tenant last :=
        ⟨placement.group, hplaces.group_mem hplacement, rfl,
          hhits ▸ List.mem_append_right _ List.mem_cons_self⟩
      rw [← hrank, hdistinct _ _ _ held hholds (hlast.trans hid.symm)]
    · -- Hits without repetitions last appear where they are.
      intro fallback hits harranges hnodup hanswers
      rw [hplaces.map_key_eq harranges hlength hanswers, hnodup.dedup]

/-- If every call returns one document for each id, then none fails. -/
theorem resolveInTurn_eq_ok {results : Results}
    (hreturns : ∀ turn group, results.asked[turn]? = some group →
      ∃ documents, turns turn group.tenant group.ids = .ok documents ∧
        ReturnsEach idOf group.ids documents) :
    ∃ answers placements, Answered turns results.asked answers ∧
      AnsweredEach idOf results.asked answers ∧ Places idOf (results.asked.zip answers) placements ∧
      (resolveInTurn idOf turns results).outcome = .ok (placements.map Placement.document) := by
  obtain ⟨answers, hanswered, hend⟩ := resolveInTurn_eq_error_or_ok idOf turns results
  rcases hend with ⟨group, error, hgroup, herror, -⟩ | ⟨hlength, placements, hplaces, hrun⟩
  · obtain ⟨documents, hdocuments, -⟩ := hreturns _ group hgroup
    rw [herror] at hdocuments
    cases hdocuments
  · have each : AnsweredEach idOf results.asked answers := by
      refine ⟨hlength, fun {turn documents} h => ?_⟩
      obtain ⟨group, hgroup, hdocuments⟩ := hanswered turn documents h
      obtain ⟨same, hsame, heach⟩ := hreturns turn group hgroup
      obtain rfl : documents = same := Except.ok.inj (hdocuments.symm.trans hsame)
      exact ⟨group, hgroup, heach⟩
    exact ⟨answers, placements, hanswered, each, hplaces, by rw [hrun]⟩

/-- If every call returns one document for each id, then the documents of a reply come out in the
order in which they last appear among the hits. This is the order of their best hits exactly if
first and last appearances come in the same order. -/
theorem resolveInTurn_decoded {reply : Reply} {total : Nat} {hits : List Hit}
    (htotal : reply.total = some total) (hhits : reply.hits = some hits) (declared : List String)
    (fallback : TenantId) :
    ∃ results, reply.decode declared fallback = .ok results ∧
      ((∀ turn group, results.asked[turn]? = some group →
          ∃ documents, turns turn group.tenant group.ids = .ok documents ∧
            ReturnsEach idOf group.ids documents) →
        ∃ placements : List (Placement δ),
          (resolveInTurn idOf turns results).outcome = .ok (placements.map Placement.document) ∧
            (∀ placement ∈ placements, ∃ turn documents,
              results.asked[turn]? = some placement.group ∧
                turns turn placement.group.tenant placement.group.ids = .ok documents ∧
                placement.document ∈ documents) ∧
            placements.map (Placement.key idOf) = (hits.map (Hit.key fallback)).dedup ∧
            (placements.map (Placement.key idOf) = (hits.map (Hit.key fallback)).eraseDups ↔
              ∀ first second, FirstBefore (hits.map (Hit.key fallback)) first second →
                LastBefore (hits.map (Hit.key fallback)) first second)) := by
  refine ⟨_, Reply.decode_of_hits declared fallback htotal hhits, ?_⟩
  have harranges := Reply.arranges_decoded fallback hits total (reply.declaredCounts declared)
  generalize ({ Reply.ranked fallback {} 0 hits with
    total := total, aggregations := reply.declaredCounts declared } : Results) = results
    at harranges ⊢
  intro hreturns
  obtain ⟨answers, placements, hanswered, heach, hplaces, houtcome⟩ :=
    resolveInTurn_eq_ok idOf turns hreturns
  have order := hplaces.map_key_eq_dedup harranges heach
  refine ⟨placements, houtcome, fun placement => hplaces.exists_call hanswered, order, ?_⟩
  rw [order]
  exact dedup_eq_eraseDups_iff _

theorem returnsEach_eraseDups (ids : List DocumentId) : ReturnsEach id ids ids.eraseDups := by
  rw [ReturnsEach, List.map_id]
  exact ⟨nodup_eraseDups ids, fun _ => List.mem_eraseDups⟩

/-- Two hits on one document that follow each other do no harm. -/
theorem resolveInTurn_decoded_twice :
    let hits : List Hit :=
      [{ id := ⟨"a"⟩ }, { id := ⟨"a"⟩, tenant := some ⟨"1"⟩ },
        { id := ⟨"a"⟩, tenant := some ⟨"2"⟩ }]
    let reply : Reply := { total := some 3, hits := some hits }
    let turns : Nat → Loader DocumentId := fun _ _ ids => .ok ids.eraseDups
    reply.total = some 3 ∧ reply.hits = some hits ∧
      ∃ results, reply.decode [] ⟨"1"⟩ = .ok results ∧ ∃ placements : List (Placement DocumentId),
        (resolveInTurn id turns results).outcome = .ok (placements.map Placement.document) ∧
          placements.map (Placement.key id) = [(⟨"1"⟩, ⟨"a"⟩), (⟨"2"⟩, ⟨"a"⟩)] := by
  intro hits reply turns
  have htotal : reply.total = some 3 := rfl
  have hhits : reply.hits = some hits := rfl
  obtain ⟨results, hdecoded, hresolved⟩ := resolveInTurn_decoded id turns htotal hhits [] ⟨"1"⟩
  obtain ⟨placements, houtcome, -, horder, -⟩ :=
    hresolved fun _ group _ => ⟨group.ids.eraseDups, rfl, returnsEach_eraseDups group.ids⟩
  exact ⟨htotal, hhits, results, hdecoded, placements, houtcome, horder.trans (by decide)⟩

/-- A document without a tenant comes back, after another one, as a document of the tenant that is
the fallback: although it has the best hit of the two, it comes out last. -/
theorem resolve_returning_document :
    let hits : List Hit :=
      [{ id := ⟨"a"⟩ }, { id := ⟨"b"⟩, tenant := some ⟨"1"⟩ },
        { id := ⟨"a"⟩, tenant := some ⟨"1"⟩ }]
    let reply : Reply := { total := some 3, hits := some hits }
    let resolver : Resolver DocumentId := { load := fun _ ids => .ok ids.eraseDups, idOf := id }
    ∃ results, reply.decode [] ⟨"1"⟩ = .ok results ∧
      (∀ group ∈ results.groups, ReturnsEach id group.ids group.ids.eraseDups) ∧
      (hits.map (Hit.key ⟨"1"⟩)).eraseDups = [(⟨"1"⟩, ⟨"a"⟩), (⟨"1"⟩, ⟨"b"⟩)] ∧
      (resolve resolver results).outcome = .ok [⟨"b"⟩, ⟨"a"⟩] := by
  intro hits reply resolver
  refine ⟨_, rfl, fun group _ => returnsEach_eraseDups group.ids, by decide, ?_⟩
  -- The document with the best hit is ranked by its last one.
  have loaded : [(2, DocumentId.mk "a"), (1, DocumentId.mk "b")].mergeSort
      (fun first second => decide (first.1 ≤ second.1)) =
        [(1, DocumentId.mk "b"), (2, DocumentId.mk "a")] :=
    mergeSort_rank_eq_of_perm Prod.fst (List.Perm.swap _ _ []) (by simp)
  change Except.ok (byRank [(2, DocumentId.mk "a"), (1, DocumentId.mk "b")]) = _
  rw [byRank, loaded]
  rfl

end Resolve

end Faceted
