import Mathlib.Algebra.Group.Nat.Defs
import Mathlib.Tactic.Choose
import Faceted.Proofs.Search.Body
import Faceted.Proofs.Search.Course

/-!
# Going through a result page by page

An engine ranks all its hits and serves the part of them that a body asks for. Searching
page by page until the pages reach the end of the ranking then shows every hit exactly once
and in order, whatever fragment is laid over the query: the place where a page begins and
its size are written last.

Where a page begins is the product of two numbers of 32 bits, which the engine reads as one number
of 64 bits. It always fits, so that no page is asked for at a wrong place.

## Main definitions

* `Request.onPage` — the same request for another page
* `Backend.Serves` — an engine serves the parts of a ranking
* `Results.ShowsPage` — results are those of one page of a ranking

## Main results

* `exists_showsPage` — a search for a page shows that page
* `flatMap_pages` — the pages of a list, one after the other
* `search_pages` — searching page by page shows every hit once, at its place
-/

namespace Faceted

/-- The same request for another page, in the same order. -/
def Request.onPage (request : Request) (index size : Nat) : Request :=
  { request with page := { request.page with index := index, size := size } }

/-- The number of at most 64 bits that a body has under a name. -/
def Json.wordUnder? (body : Json) (name : String) : Option Nat :=
  match body.member? name with
  | some (.number n) => n.natBelow? (2 ^ 64)
  | _ => none

/-- An engine serves the parts of a ranking: it reads where a page begins and how many hits it may
have, and answers with the hits there and the total. What it counts is its own business. -/
def Backend.Serves (backend : Backend) (ranking : List Hit) : Prop :=
  ∀ (body : Json) (start size : Nat),
    body.wordUnder? "from" = some start → body.wordUnder? "size" = some size →
      ∃ counts, backend body = .ok
        { total := some ranking.length
          hits := some ((ranking.drop start).take size)
          aggregations := counts }

/-- The items on a page. -/
def pageOf {α : Type} (items : List α) (size index : Nat) : List α :=
  (items.drop (index * size)).take size

/-- Results are those of one page of a ranking: they have its hits in order, and hold each of them
under its place on the page. -/
structure Results.ShowsPage (results : Results) (fallback : TenantId) (page : List Hit) : Prop where
  ids : results.ids = page.map Hit.id
  holds (tenant : TenantId) (member : RankedHit) :
    results.Holds tenant member ↔
      ∃ position hit, page[position]? = some hit ∧ hit.tenant.getD fallback = tenant ∧
        member = ⟨hit.id, position, Highlight.firstOfEach hit.highlights⟩

/-! ### One page -/

/-- The number of hits before a page fits into 64 bits. -/
theorem Page.offset_lt {page : Page} (hindex : page.index < 2 ^ 32) (hsize : page.size < 2 ^ 32) :
    page.offset < 2 ^ 64 :=
  calc page.index * page.size < 2 ^ 32 * 2 ^ 32 := Nat.mul_lt_mul'' hindex hsize
    _ = 2 ^ 64 := (Nat.pow_add 2 32 32).symm

theorem Json.wordUnder?_of_get? {members : Entries Json} {name : String} {n : Nat}
    (h : Entries.get? members name = some (.nat n)) (hword : n < 2 ^ 64) :
    (Json.object members).wordUnder? name = some n := by
  have hmember : (Json.object members).member? name = some (.nat n) := h
  simp only [wordUnder?, hmember, Json.nat, Number.natBelow?]
  rw [if_pos (by omega), Int.toNat_natCast]

theorem Reply.showsPage_ranked (fallback : TenantId) (hits : List Hit) :
    (ranked fallback {} 0 hits).ShowsPage fallback hits where
  ids := by simp [ids_ranked]
  holds tenant member := by
    have nothing : ¬ ({} : Results).Holds tenant member := by simp [Results.Holds]
    simp [holds_ranked, nothing]

section Search

variable {service : Service} {request : Request} {ranking : List Hit} {size : Nat}

/-- The bodies for the pages of a request are the one for its first page with another beginning. -/
theorem Service.sentBody_onPage (hbody : service.hooks.requestBody = none) (request : Request)
    (index size : Nat) :
    service.sentBody (request.onPage index size) =
      .object (Entries.put
        ((service.compile request).body service.settings (request.onPage 0 size).page) "from"
        (.nat (index * size))) :=
  (requestBody_of_no_hook hbody _ _).trans (congrArg Json.object
    ((service.compile request).body_index service.settings (request.onPage 0 size).page index))

theorem Service.asks_onPage (request : Request) (henabled : service.catalog.enabled = true)
    (hquery : (service.compile request).isEmpty = false) (hsize : size ≠ 0) (index : Nat) :
    service.Asks (request.onPage index size) :=
  ⟨henabled, hsize, hquery⟩

/-- If the engine answers with hits, and no hook revises them, then those are what is found. -/
theorem search_of_hits (hasks : service.Asks request) (hresults : service.hooks.results = none)
    {reply : Reply} (hanswer : service.backend (service.sentBody request) = .ok reply) {total : Nat}
    {hits : List Hit} (htotal : reply.total = some total) (hhits : reply.hits = some hits) :
    (service.search request).value = .ok (.found
      { Reply.ranked (request.tenant.getD service.settings.tenant.fallback) {} 0 hits with
        total := total
        aggregations := reply.declaredCounts (service.compile request).aggregationNames }) := by
  have hdecoded := Reply.decode_of_hits (service.compile request).aggregationNames
    (request.tenant.getD service.settings.tenant.fallback) htotal hhits
  rw [search_of_reply hasks hanswer, Service.conclude_of_decoded hdecoded]
  rw [hresults, Option.elim_none]

/-- A search for a page shows the hits on that page. -/
theorem exists_showsPage (hasks : ∀ index, service.Asks (request.onPage index size))
    (hbody : service.hooks.requestBody = none) (hresults : service.hooks.results = none)
    (hserves : service.backend.Serves ranking) (hsize : size < 2 ^ 32) {index : Nat}
    (hindex : index < 2 ^ 32) :
    ∃ results, (service.search (request.onPage index size)).value = .ok (.found results) ∧
      results.ShowsPage (request.tenant.getD service.settings.tenant.fallback)
        (pageOf ranking size index) := by
  have hsent : service.sentBody (request.onPage index size) =
      .object ((service.compile request).body service.settings (request.onPage index size).page) :=
    Service.requestBody_of_no_hook hbody _ _
  have hstart := Json.wordUnder?_of_get?
    ((service.compile request).get?_body_from service.settings (request.onPage index size).page)
    (Page.offset_lt hindex hsize)
  have hlength := Json.wordUnder?_of_get?
    ((service.compile request).get?_body_size service.settings (request.onPage index size).page)
    (Nat.lt_trans hsize (Nat.pow_lt_pow_right (by simp) (by simp)))
  obtain ⟨counts, hanswer⟩ := hserves _ _ _ hstart hlength
  rw [← hsent] at hanswer
  have hpage := Reply.showsPage_ranked (request.tenant.getD service.settings.tenant.fallback)
    (pageOf ranking size index)
  exact ⟨_, search_of_hits (hasks index) hresults hanswer rfl rfl, hpage.ids, hpage.holds⟩

end Search

/-! ### All pages -/

/-- The pages of a list, one after the other, are the part of it that they reach. -/
theorem flatMap_pageOf {α : Type} (items : List α) (size count : Nat) :
    (List.range count).flatMap (pageOf items size) = items.take (count * size) := by
  induction count with
  | zero => simp
  | succ count ih =>
    rw [List.range_succ, List.flatMap_append, ih, Nat.succ_mul, List.take_add]
    simp [pageOf]

theorem getElem?_pageOf {α : Type} (items : List α) {size place : Nat} (hplace : place < size)
    (index : Nat) : (pageOf items size index)[place]? = items[index * size + place]? := by
  rw [pageOf, List.getElem?_take_of_lt hplace, List.getElem?_drop]

theorem lt_of_getElem?_pageOf {α : Type} {items : List α} {size index place : Nat} {item : α}
    (h : (pageOf items size index)[place]? = some item) : place < size :=
  Nat.lt_of_lt_of_le (List.getElem?_eq_some_iff.1 h).1 (List.length_take_le _ _)

section Shown

variable {pages : List Results} {fallback : TenantId} {ranking : List Hit} {size : Nat}

/-- Pages that reach the end of a ranking have its hits one after the other. -/
theorem flatMap_ids_of_showsPage
    (hshows : ∀ (index : Nat) (results : Results), pages[index]? = some results →
      results.ShowsPage fallback (pageOf ranking size index))
    (hcover : ranking.length ≤ pages.length * size) :
    pages.flatMap Results.ids = ranking.map Hit.id := by
  have ids : pages.map Results.ids =
      (List.range pages.length).map fun index => (pageOf ranking size index).map Hit.id := by
    refine List.ext_getElem? fun index => ?_
    rcases h : pages[index]? with _ | results
    · simp [List.getElem?_eq_none_iff.1 h]
    · have hlt := (List.getElem?_eq_some_iff.1 h).1
      simp [h, List.getElem?_range hlt, (hshows index results h).ids]
  rw [List.flatMap_def, ids, ← List.flatMap_def, ← List.map_flatMap, flatMap_pageOf,
    List.take_of_length_le hcover]

/-- The hit at a position is on the page, and there at the place, that division says. -/
theorem Results.ShowsPage.of_position {results : Results} {position : Nat} {hit : Hit}
    (hshows : results.ShowsPage fallback (pageOf ranking size (position / size))) (hsize : 1 ≤ size)
    (hhit : ranking[position]? = some hit) :
    results.ids[position % size]? = some hit.id ∧
      results.Holds (hit.tenant.getD fallback)
        ⟨hit.id, position % size, Highlight.firstOfEach hit.highlights⟩ := by
  have hplace : (pageOf ranking size (position / size))[position % size]? = some hit := by
    rw [getElem?_pageOf ranking (Nat.mod_lt _ hsize), Nat.div_add_mod', hhit]
  refine ⟨?_, (hshows.holds _ _).2 ⟨_, hit, hplace, rfl, rfl⟩⟩
  rw [hshows.ids, List.getElem?_map, hplace]
  rfl

/-- Whatever is on a page is the hit at that place of the ranking. -/
theorem Results.ShowsPage.position {results : Results} {index : Nat} {tenant : TenantId}
    {member : RankedHit} (hshows : results.ShowsPage fallback (pageOf ranking size index))
    (hholds : results.Holds tenant member) :
    member.rank < size ∧ ∃ hit, ranking[index * size + member.rank]? = some hit ∧
      hit.tenant.getD fallback = tenant ∧
        member = ⟨hit.id, member.rank, Highlight.firstOfEach hit.highlights⟩ := by
  obtain ⟨place, hit, hhit, htenant, rfl⟩ := (hshows.holds tenant member).1 hholds
  have hplace := lt_of_getElem?_pageOf hhit
  exact ⟨hplace, hit, (getElem?_pageOf ranking hplace index).symm.trans hhit, htenant, rfl⟩

end Shown

section Pages

variable (service : Service) (request : Request) (ranking : List Hit) (size count : Nat)

/-- Going through the pages of a ranking until they reach its end shows every hit once: each page is
found, the pages have the hits of the ranking one after the other, the hit at a position is on the
page and under the rank that division says and nothing else is on any page, and the bodies that are
sent differ only in where the page begins. -/
theorem search_pages (henabled : service.catalog.enabled = true)
    (hbody : service.hooks.requestBody = none) (hresults : service.hooks.results = none)
    (hquery : (service.compile request).isEmpty = false) (hserves : service.backend.Serves ranking)
    (hsize : 1 ≤ size) (hsizeWord : size < 2 ^ 32) (hcount : count ≤ 2 ^ 32)
    (hcover : ranking.length ≤ count * size) :
    ∃ pages : List Results, pages.length = count ∧
      (∀ index results, pages[index]? = some results →
        (service.search (request.onPage index size)).value = .ok (.found results)) ∧
      pages.flatMap Results.ids = ranking.map Hit.id ∧
      (∀ position hit, ranking[position]? = some hit →
        ∃ results, pages[position / size]? = some results ∧
          results.ids[position % size]? = some hit.id ∧
          results.Holds (hit.tenant.getD (request.tenant.getD service.settings.tenant.fallback))
            ⟨hit.id, position % size, Highlight.firstOfEach hit.highlights⟩) ∧
      (∀ index results tenant member, pages[index]? = some results → results.Holds tenant member →
        member.rank < size ∧ ∃ hit, ranking[index * size + member.rank]? = some hit ∧
          hit.tenant.getD (request.tenant.getD service.settings.tenant.fallback) = tenant ∧
          member = ⟨hit.id, member.rank, Highlight.firstOfEach hit.highlights⟩) ∧
      ∃ members : Entries Json, ∀ index < count, ∀ body,
        Event.sent body ∈ (service.search (request.onPage index size)).events ↔
          body = .object (Entries.put members "from" (.nat (index * size))) := by
  have hasks := service.asks_onPage request henabled hquery (Nat.one_le_iff_ne_zero.1 hsize)
  have found (index : Nat) (hindex : index < count) := exists_showsPage hasks hbody hresults hserves
    hsizeWord (Nat.lt_of_lt_of_le hindex hcount)
  -- One page is chosen for each index, so that all that follows is about the same pages.
  have : Nonempty Results := ⟨{}⟩
  choose! page hfound hshows using found
  have getElem?_page (index : Nat) (results : Results) :
      ((List.range count).map page)[index]? = some results ↔
        index < count ∧ page index = results := by
    rw [List.getElem?_map, Option.map_eq_some_iff]
    simp [List.getElem?_eq_some_iff]
  have hpages (index : Nat) (results : Results)
      (h : ((List.range count).map page)[index]? = some results) :
      results.ShowsPage (request.tenant.getD service.settings.tenant.fallback)
        (pageOf ranking size index) := by
    obtain ⟨hindex, rfl⟩ := (getElem?_page index results).1 h
    exact hshows index hindex
  refine ⟨(List.range count).map page, by simp, fun index results h => ?_,
    flatMap_ids_of_showsPage hpages (by simpa using hcover), fun position hit hhit => ?_,
    fun index results tenant member h hholds => (hpages index results h).position hholds,
    (service.compile request).body service.settings (request.onPage 0 size).page,
    fun index _ body => ?_⟩
  · obtain ⟨hindex, rfl⟩ := (getElem?_page index results).1 h
    exact hfound index hindex
  · have hposition : position < count * size :=
      Nat.lt_of_lt_of_le (List.getElem?_eq_some_iff.1 hhit).1 hcover
    have hindex : position / size < count :=
      Nat.div_lt_of_lt_mul (Nat.mul_comm count size ▸ hposition)
    exact ⟨page (position / size), (getElem?_page _ _).2 ⟨hindex, rfl⟩,
      (hshows _ hindex).of_position hsize hhit⟩
  · rw [sent_mem_events_iff (hasks index), service.sentBody_onPage hbody]

end Pages

/-- The plainest engine that serves the parts of a ranking. It counts nothing. -/
def Backend.ofRanking (ranking : List Hit) : Backend := fun body =>
  match body.wordUnder? "from", body.wordUnder? "size" with
  | some start, some size =>
    .ok { total := some ranking.length, hits := some ((ranking.drop start).take size) }
  | _, _ => .error (.rejected 400 "no page")

theorem Backend.serves_ofRanking (ranking : List Hit) : (ofRanking ranking).Serves ranking := by
  intro body start size hstart hsize
  exact ⟨[], by rw [ofRanking, hstart, hsize]⟩

/-- Three hits on pages of two, of which the first and the last are the same document, under a
fragment that asks for another page. -/
theorem search_pages_colors :
    let ranking : List Hit :=
      [{ id := ⟨"a"⟩ }, { id := ⟨"b"⟩, tenant := some ⟨"2"⟩ }, { id := ⟨"a"⟩ }]
    let service : Service :=
      { backend := .ofRanking ranking
        catalog := ({ customFacets := ["color"] } : CatalogTable).toCatalog
        hooks := { fragment := some fun _ => [("from", .nat 7), ("size", .nat 0)] } }
    let request : Request := { selections := [("color", .exact "red")] }
    service.catalog.enabled = true ∧ service.hooks.requestBody = none ∧
      service.hooks.results = none ∧ (service.compile request).isEmpty = false ∧
      service.backend.Serves ranking ∧ 1 ≤ 2 ∧ 2 < 2 ^ 32 ∧ 2 ≤ 2 ^ 32 ∧ ranking.length ≤ 2 * 2 ∧
      ∃ pages : List Results, pages.length = 2 ∧
        (∀ index results, pages[index]? = some results →
          (service.search (request.onPage index 2)).value = .ok (.found results)) ∧
        pages.flatMap Results.ids = [⟨"a"⟩, ⟨"b"⟩, ⟨"a"⟩] := by
  intro ranking service request
  have hquery : (service.compile request).isEmpty = false := by decide
  have hserves : service.backend.Serves ranking := Backend.serves_ofRanking ranking
  have hword : 2 < 2 ^ 32 := by simp
  have hcover : ranking.length ≤ 2 * 2 := by simp [ranking]
  obtain ⟨pages, hlength, hfound, hids, -⟩ := search_pages service request ranking 2 2 rfl rfl rfl
    hquery hserves (Nat.le_succ 1) hword (Nat.le_of_lt hword) hcover
  exact ⟨rfl, rfl, rfl, hquery, hserves, Nat.le_succ 1, hword, Nat.le_of_lt hword, hcover, pages,
    hlength, hfound, hids⟩

end Faceted
