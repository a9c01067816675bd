import Mathlib.Logic.ExistsUnique
import Faceted.Proofs.Search.Body
import Faceted.Proofs.Search.Grouping
import Faceted.Proofs.Text.Ends
import Faceted.Search.Run

/-!
# The course of a search

A search goes one of five ways, and which one is decided by four questions in a fixed order: is
search switched on, is the page nonempty, is there anything to ask for, and what does the engine
answer. This file gives for each way the outcome and the whole log of what is done: which hooks are
consulted with what, and which body is sent. The engine is asked at most once, and only its answer
to that one body can matter.

## Main definitions

* `Service.Prepares` — what is compiled, which hooks are consulted for it, and which body is sent
* `Course` — the ways a search can go
* `Course.Applies` — when a search goes this way
* `Course.Explains` — what comes of the search and what is done for it

## Main results

* `Course.existsUnique_applies` — a search goes exactly one way
* `search_course` — the outcome and the log of every search
-/

namespace Faceted

/-- A hook that is consulted while a search is compiled. -/
def Event.IsCompiling : Event → Prop
  | .excludedFields _ | .language _ | .fullText _ | .fragment _ => True
  | .requestBody _ | .sent _ | .failure _ | .results _ _ => False

namespace Service

variable (service : Service) (request : Request)

/-- What is done to compile a request. -/
def compiling : List Event :=
  service.compileEvents (Text.trim request.text) request.selections

/-- The body of a request before its hook. -/
def rawBody : Json :=
  .object ((service.compile request).body service.settings request.page)

/-- The body that a request is sent with. -/
def sentBody : Json :=
  service.requestBody (service.compile request) request.page

/-- What is done to ask the engine: the body's hook is consulted and the body sent. -/
def asking : List Event :=
  [.requestBody (service.rawBody request), .sent (service.sentBody request)]

/-- The results of a reply before their hook, if the reply can be decoded. -/
def decoded (reply : Reply) : Except ReplyGap Results :=
  reply.decode (service.compile request).aggregationNames
    (request.tenant.getD service.settings.tenant.fallback)

/-- The same service with another engine behind it. -/
def withBackend (backend : Backend) : Service :=
  { service with backend := backend }

theorem compiling_withBackend (backend : Backend) :
    (service.withBackend backend).compiling request = service.compiling request := rfl

theorem asking_withBackend (backend : Backend) :
    (service.withBackend backend).asking request = service.asking request := rfl

theorem requestBody_of_no_hook {service : Service} (hbody : service.hooks.requestBody = none)
    (query : Query) (page : Page) :
    service.requestBody query page = .object (query.body service.settings page) := by
  rw [requestBody, Hooks.applyRequestBody_of_none hbody]

theorem requestBody_of_hook {service : Service} {revise : Json → Json}
    (hbody : service.hooks.requestBody = some revise) (query : Query) (page : Page) :
    service.requestBody query page = revise (.object (query.body service.settings page)) := by
  rw [requestBody, Hooks.applyRequestBody_of_some hbody]

/-- The engine is asked: search is switched on, the page is nonempty and so is the query. -/
structure Asks : Prop where
  enabled : service.catalog.enabled = true
  page : request.page.size ≠ 0
  query : (service.compile request).isEmpty = false

end Service

theorem Service.asks_iff (service : Service) (request : Request) :
    service.Asks request ↔
      service.catalog.enabled = true ∧ request.page.size ≠ 0 ∧
        (service.compile request).isEmpty = false :=
  ⟨fun ⟨henabled, hpage, hquery⟩ => ⟨henabled, hpage, hquery⟩,
    fun ⟨henabled, hpage, hquery⟩ => ⟨henabled, hpage, hquery⟩⟩

/-! ### What is prepared -/

/-- What a service prepares for a request, whether or not it comes to sending it. -/
structure Service.Prepares (service : Service) (request : Request) : Prop where
  /-- The text is compiled without the blanks at its ends. -/
  trimmed : ∃ text, Text.IsTrimmed request.text text ∧
    service.compile request =
      Faceted.compile service.catalog service.hooks service.settings.tenant text request.selections
  /-- The hooks of compiling are consulted once each, that of the text clause only if there is one.
  The last is given the query without a fragment, and its fragment is the only one. -/
  compiled : ∃ clause? : Option FullText,
    service.compiling request =
        [.excludedFields ["post_date"], .language "english"] ++
          (clause?.map Event.fullText).toList ++
          [.fragment { service.compile request with extensions := [] }] ∧
      (service.compile request).fullText =
        clause?.map (fun clause => service.hooks.fullText.elim clause fun revise => revise clause) ∧
      (service.compile request).extensions = Json.overlay []
        (service.hooks.fragment.elim [] fun give =>
          give { service.compile request with extensions := [] })
  /-- The hook of bodies is consulted with the query written for the page, and what it
  makes of that is sent. -/
  asked : ∃ body : Entries Json,
    Query.BodyOf (service.compile request).document service.settings request.page body ∧
      service.sentBody request =
        service.hooks.requestBody.elim (.object body) (fun revise => revise (.object body)) ∧
      service.asking request = [.requestBody (.object body), .sent (service.sentBody request)]

namespace Service

variable (service : Service) (request : Request)

/-- The text clause that its hook is given, if there is one. -/
def clause? : Option FullText :=
  Compile.hookedFullText service.catalog service.hooks (Text.trim request.text)

theorem compile_without_extensions :
    { service.compile request with extensions := [] } =
      Compile.draft service.catalog service.hooks service.settings.tenant (Text.trim request.text)
        request.selections := by
  rw [compile]
  exact Faceted.compile_without_extensions _ _ _ _ _

theorem compiling_eq :
    service.compiling request =
      [.excludedFields ["post_date"], .language "english"] ++
        ((service.clause? request).map Event.fullText).toList ++
        [.fragment { service.compile request with extensions := [] }] := by
  rw [compile_without_extensions, compiling, compileEvents, Compile.defaultExcluded,
    Compile.defaultLanguage, clause?]

theorem compile_fullText_eq :
    (service.compile request).fullText = (service.clause? request).map fun clause =>
      service.hooks.fullText.elim clause fun revise => revise clause := by
  have revised : service.hooks.applyFullText = fun clause =>
      service.hooks.fullText.elim clause fun revise => revise clause := by
    funext clause
    cases hhook : service.hooks.fullText with
    | none => exact Hooks.applyFullText_of_none hhook clause
    | some revise => exact Hooks.applyFullText_of_some hhook clause
  rw [← revised, clause?]
  simp only [compile, Faceted.compile, Compile.draft]

theorem compile_extensions_eq :
    (service.compile request).extensions = Json.overlay []
      (service.hooks.fragment.elim [] fun give =>
        give { service.compile request with extensions := [] }) := by
  rw [compile_without_extensions, compile, compile_extensions]
  cases hhook : service.hooks.fragment with
  | none => rw [Hooks.applyFragment_of_none hhook, Option.elim_none]
  | some give => rw [Hooks.applyFragment_of_some hhook, Option.elim_some]

theorem sentBody_eq :
    service.sentBody request =
      service.hooks.requestBody.elim (service.rawBody request) fun revise =>
        revise (service.rawBody request) := by
  rw [sentBody, rawBody]
  cases hhook : service.hooks.requestBody with
  | none => exact requestBody_of_no_hook hhook _ _
  | some revise => exact requestBody_of_hook hhook _ _

theorem prepares : service.Prepares request where
  trimmed := ⟨_, Text.isTrimmed_trim request.text, rfl⟩
  compiled := ⟨service.clause? request, service.compiling_eq request,
    service.compile_fullText_eq request, service.compile_extensions_eq request⟩
  asked := ⟨_, (service.compile request).bodyOf_body service.settings request.page,
    service.sentBody_eq request, rfl⟩

end Service

/-! ### The ways a search can go -/

/-- The ways a search can go. -/
inductive Course where
  /-- Search is switched off. -/
  | disabled
  /-- No result fits on the page. -/
  | emptyPage
  /-- There is nothing to ask for. -/
  | nothingToAsk
  /-- The engine was asked and failed. -/
  | failed (error : BackendError)
  /-- The engine was asked and answered. -/
  | answered (reply : Reply)

namespace Course

variable (service : Service) (request : Request)

/-- When a search goes this way. -/
def Applies : Course → Prop
  | .disabled => service.catalog.enabled = false
  | .emptyPage => service.catalog.enabled = true ∧ request.page.size = 0
  | .nothingToAsk =>
    service.catalog.enabled = true ∧ request.page.size ≠ 0 ∧
      (service.compile request).isEmpty = true
  | .failed error =>
    service.Asks request ∧ service.backend (service.sentBody request) = .error error
  | .answered reply =>
    service.Asks request ∧ service.backend (service.sentBody request) = .ok reply

/-- What comes of a search that goes this way, and all that is done for it, in order. -/
def Explains (run : Traced (Except SearchError Outcome)) : Course → Prop
  | .disabled => run.value = .ok .disabled ∧ run.events = []
  | .emptyPage => run.value = .error .emptyPage ∧ run.events = []
  | .nothingToAsk => run.value = .ok .empty ∧ run.events = service.compiling request
  | .failed error =>
    run.value = .ok (.unavailable error) ∧
      run.events = service.compiling request ++ service.asking request ++ [.failure error]
  | .answered reply =>
    ((∃ message, run.value = .error (.malformedReply message)) ↔
        reply.total = none ∨ reply.hits = none) ∧
      ((reply.total = none ∨ reply.hits = none) →
        run.events = service.compiling request ++ service.asking request) ∧
      (¬ (reply.total = none ∨ reply.hits = none) →
        ∃ results, service.decoded request reply = .ok results ∧
          results.OfReply reply (service.compile request).aggregationNames
            (request.tenant.getD service.settings.tenant.fallback) ∧
          run.value = .ok (.found
            (service.hooks.results.elim results fun revise => revise results reply)) ∧
          run.events =
            service.compiling request ++ service.asking request ++ [.results results reply])

variable {service : Service} {request : Request}

section Applies

variable {course : Course}

theorem applies_disabled_iff (henabled : service.catalog.enabled = false) :
    course.Applies service request ↔ course = .disabled := by
  cases course <;> simp [Applies, Service.asks_iff, henabled]

theorem applies_emptyPage_iff (henabled : service.catalog.enabled = true)
    (hpage : request.page.size = 0) :
    course.Applies service request ↔ course = .emptyPage := by
  cases course <;> simp [Applies, Service.asks_iff, henabled, hpage]

theorem applies_nothingToAsk_iff (henabled : service.catalog.enabled = true)
    (hpage : request.page.size ≠ 0) (hquery : (service.compile request).isEmpty = true) :
    course.Applies service request ↔ course = .nothingToAsk := by
  cases course <;> simp [Applies, Service.asks_iff, henabled, hpage, hquery]

theorem applies_failed_iff (hasks : service.Asks request) {error : BackendError}
    (hanswer : service.backend (service.sentBody request) = .error error) :
    course.Applies service request ↔ course = .failed error := by
  cases course <;>
    simp [Applies, hasks, hasks.enabled, hasks.page, hasks.query, hanswer, eq_comm]

theorem applies_answered_iff (hasks : service.Asks request) {reply : Reply}
    (hanswer : service.backend (service.sentBody request) = .ok reply) :
    course.Applies service request ↔ course = .answered reply := by
  cases course <;>
    simp [Applies, hasks, hasks.enabled, hasks.page, hasks.query, hanswer, eq_comm]

end Applies

/-- A search goes exactly one way. -/
theorem existsUnique_applies (service : Service) (request : Request) :
    ∃! course : Course, course.Applies service request := by
  suffices h : ∃ course : Course, ∀ other : Course,
      other.Applies service request ↔ other = course by
    obtain ⟨course, h⟩ := h
    exact ⟨course, (h course).2 rfl, fun other => (h other).1⟩
  -- The questions are asked in this order, and each is asked only if all before it were passed.
  by_cases henabled : service.catalog.enabled = true
  · by_cases hpage : request.page.size = 0
    · exact ⟨_, fun _ => applies_emptyPage_iff henabled hpage⟩
    · by_cases hquery : (service.compile request).isEmpty = true
      · exact ⟨_, fun _ => applies_nothingToAsk_iff henabled hpage hquery⟩
      · have hasks : service.Asks request := ⟨henabled, hpage, Bool.eq_false_iff.2 hquery⟩
        rcases hanswer : service.backend (service.sentBody request) with error | reply
        · exact ⟨_, fun _ => applies_failed_iff hasks hanswer⟩
        · exact ⟨_, fun _ => applies_answered_iff hasks hanswer⟩
  · exact ⟨_, fun _ => applies_disabled_iff (Bool.eq_false_iff.2 henabled)⟩

end Course

/-! ### What is done on each way -/

section Run

variable {service : Service} {request : Request}

theorem search_of_disabled (h : service.catalog.enabled = false) :
    service.search request = { value := .ok .disabled } := by
  rw [Service.search, h, if_pos (by rfl)]

theorem search_of_emptyPage (henabled : service.catalog.enabled = true)
    (hpage : request.page.size = 0) : service.search request = { value := .error .emptyPage } := by
  rw [Service.search, henabled, if_neg (by simp), if_pos hpage]

theorem search_of_isEmpty (henabled : service.catalog.enabled = true)
    (hpage : request.page.size ≠ 0) (hquery : (service.compile request).isEmpty = true) :
    service.search request = { value := .ok .empty, events := service.compiling request } := by
  simp [Service.search, henabled, hpage, Service.execute, hquery, Service.compiling]

theorem search_of_error (hasks : service.Asks request) {error : BackendError}
    (h : service.backend (service.sentBody request) = .error error) :
    service.search request =
      { value := .ok (.unavailable error)
        events := service.compiling request ++ service.asking request ++ [.failure error] } := by
  rw [Service.sentBody] at h
  simp [Service.search, hasks.enabled, hasks.page, hasks.query, Service.execute, h,
    Service.compiling, Service.asking, Service.rawBody, Service.sentBody]

/-- Once the engine has answered, the outcome is what the reply is concluded to mean. -/
theorem search_of_reply (hasks : service.Asks request) {reply : Reply}
    (h : service.backend (service.sentBody request) = .ok reply) :
    service.search request =
      { service.conclude request (service.compile request) reply with
        events := service.compiling request ++ service.asking request ++
          (service.conclude request (service.compile request) reply).events } := by
  rw [Service.sentBody] at h
  simp [Service.search, hasks.enabled, hasks.page, hasks.query, Service.execute, h,
    Service.compiling, Service.asking, Service.rawBody, Service.sentBody]

theorem Service.conclude_of_gap (service : Service) (request : Request) {reply : Reply}
    (h : reply.total = none ∨ reply.hits = none) :
    ∃ message, service.conclude request (service.compile request) reply =
      { value := .error (.malformedReply message) } := by
  obtain ⟨gap, hgap⟩ := Reply.decode_of_gap (service.compile request).aggregationNames
    (request.tenant.getD service.settings.tenant.fallback) h
  exact ⟨gap.message, by rw [conclude, hgap]⟩

theorem Service.conclude_of_decoded {reply : Reply} {results : Results}
    (h : service.decoded request reply = .ok results) :
    service.conclude request (service.compile request) reply =
      { value := .ok (.found
          (service.hooks.results.elim results fun revise => revise results reply))
        events := [.results results reply] } := by
  have revised : service.hooks.applyResults results reply =
      service.hooks.results.elim results fun revise => revise results reply := by
    cases hhook : service.hooks.results with
    | none => exact Hooks.applyResults_of_none hhook results reply
    | some revise => exact Hooks.applyResults_of_some hhook results reply
  rw [decoded] at h
  rw [conclude, h, ← revised]

theorem Service.exists_decoded (service : Service) (request : Request) {reply : Reply}
    (h : ¬ (reply.total = none ∨ reply.hits = none)) :
    ∃ results, service.decoded request reply = .ok results ∧
      results.OfReply reply (service.compile request).aggregationNames
        (request.tenant.getD service.settings.tenant.fallback) :=
  Reply.exists_ofReply h _ _

/-- Compiling consults only the hooks of compiling. -/
theorem Service.isCompiling_of_mem {event : Event} (h : event ∈ service.compiling request) :
    event.IsCompiling := by
  rw [compiling, compileEvents, List.mem_append, List.mem_append] at h
  rcases h with (h | h) | h
  · rcases List.mem_cons.1 h with rfl | h
    · trivial
    · rw [List.mem_singleton.1 h]
      trivial
  · obtain ⟨clause, -, rfl⟩ := Option.map_eq_some_iff.1 (Option.mem_toList.1 h)
    trivial
  · rw [List.mem_singleton.1 h]
    trivial

/-- On the way where the engine answers, the outcome depends on whether the reply can be decoded. -/
theorem Course.explains_answered (hasks : service.Asks request) {reply : Reply}
    (h : service.backend (service.sentBody request) = .ok reply) :
    (Course.answered reply).Explains service request (service.search request) := by
  rw [Explains, search_of_reply hasks h]
  by_cases hgap : reply.total = none ∨ reply.hits = none
  · obtain ⟨message, hconclude⟩ := service.conclude_of_gap request hgap
    rw [hconclude]
    exact ⟨⟨fun _ => hgap, fun _ => ⟨message, rfl⟩⟩, fun _ => by simp, fun hno => absurd hgap hno⟩
  · obtain ⟨results, hresults, hofReply⟩ := service.exists_decoded request hgap
    rw [Service.conclude_of_decoded hresults]
    refine ⟨⟨fun ⟨message, hmessage⟩ => ?_, fun hyes => absurd hyes hgap⟩,
      fun hyes => absurd hyes hgap, fun _ => ⟨results, hresults, hofReply, rfl, rfl⟩⟩
    cases hmessage

/-- Each way explains the searches that go it. -/
theorem Course.Applies.explains {course : Course} (h : course.Applies service request) :
    course.Explains service request (service.search request) := by
  cases course with
  | disabled =>
    rw [Explains, search_of_disabled h]
    exact ⟨rfl, rfl⟩
  | emptyPage =>
    rw [Explains, search_of_emptyPage h.1 h.2]
    exact ⟨rfl, rfl⟩
  | nothingToAsk =>
    rw [Explains, search_of_isEmpty h.1 h.2.1 h.2.2]
    exact ⟨rfl, rfl⟩
  | failed error =>
    rw [Explains, search_of_error h.1 h.2]
    exact ⟨rfl, rfl⟩
  | answered reply => exact explains_answered h.1 h.2

theorem Service.not_sent_mem_compiling (body : Json) :
    Event.sent body ∉ service.compiling request :=
  fun h => isCompiling_of_mem h

/-- If the engine is asked, the body it is sent is the only one. -/
theorem sent_mem_events_iff (hasks : service.Asks request) (body : Json) :
    Event.sent body ∈ (service.search request).events ↔ body = service.sentBody request := by
  have asked : Event.sent body ∈ service.compiling request ++ service.asking request ↔
      body = service.sentBody request := by
    simp [Service.not_sent_mem_compiling, Service.asking]
  -- What is done after asking is a hook of failures or of results, and sends nothing.
  rcases hanswer : service.backend (service.sentBody request) with error | reply
  · rw [search_of_error hasks hanswer, List.mem_append, asked]
    simp
  · rw [search_of_reply hasks hanswer, List.mem_append, asked, or_iff_left]
    by_cases hgap : reply.total = none ∨ reply.hits = none
    · obtain ⟨message, hconclude⟩ := service.conclude_of_gap request hgap
      simp [hconclude]
    · obtain ⟨results, hresults, -⟩ := service.exists_decoded request hgap
      simp [service.conclude_of_decoded hresults]

/-- A search looks at no more of the engine than its answer to the body that is sent, and at nothing
of it if no body is sent. -/
theorem search_withBackend {backend : Backend}
    (h : service.Asks request →
      backend (service.sentBody request) = service.backend (service.sentBody request)) :
    (service.withBackend backend).search request = service.search request := by
  -- The other service goes the same way: all questions but the last do not mention the engine, and
  -- the last is answered alike.
  obtain ⟨course, happlies, -⟩ := Course.existsUnique_applies service request
  cases course with
  | disabled =>
    have hother : (service.withBackend backend).catalog.enabled = false := happlies
    rw [search_of_disabled happlies, search_of_disabled hother]
  | emptyPage =>
    have hother : (service.withBackend backend).catalog.enabled = true := happlies.1
    rw [search_of_emptyPage happlies.1 happlies.2, search_of_emptyPage hother happlies.2]
  | nothingToAsk =>
    obtain ⟨henabled, hpage, hquery⟩ := happlies
    have hother : (service.withBackend backend).catalog.enabled = true ∧
        ((service.withBackend backend).compile request).isEmpty = true := ⟨henabled, hquery⟩
    rw [search_of_isEmpty henabled hpage hquery, search_of_isEmpty hother.1 hpage hother.2,
      Service.compiling_withBackend]
  | failed error =>
    obtain ⟨hasks, hanswer⟩ := happlies
    have hother : (service.withBackend backend).Asks request :=
      ⟨hasks.enabled, hasks.page, hasks.query⟩
    rw [search_of_error hasks hanswer, search_of_error hother ((h hasks).trans hanswer),
      Service.compiling_withBackend, Service.asking_withBackend]
  | answered reply =>
    obtain ⟨hasks, hanswer⟩ := happlies
    have hother : (service.withBackend backend).Asks request :=
      ⟨hasks.enabled, hasks.page, hasks.query⟩
    rw [search_of_reply hasks hanswer, search_of_reply hother ((h hasks).trans hanswer),
      Service.compiling_withBackend, Service.asking_withBackend]
    rfl

/-- A search goes exactly one way. That way says what comes of it and everything that is done for
it: which hooks are consulted, and which body the engine is asked with, if any. What is compiled is
the trimmed text, what is sent and what is found is what the hooks make of it, and a hook that is
not set leaves it as it is. -/
theorem search_course (service : Service) (request : Request) :
    service.Prepares request ∧
      (∃! course : Course, course.Applies service request) ∧
      (∀ course : Course, course.Applies service request →
        course.Explains service request (service.search request)) ∧
      (∀ event ∈ service.compiling request, event.IsCompiling) ∧
      ∀ backend : Backend,
        (service.Asks request →
          backend (service.sentBody request) = service.backend (service.sentBody request)) →
        (service.withBackend backend).search request = service.search request :=
  ⟨service.prepares request, Course.existsUnique_applies service request, fun _ h => h.explains,
    fun _ h => Service.isCompiling_of_mem h, fun _ h => search_withBackend h⟩

end Run

/-- A text between blanks, a hook that wraps bodies, and one that counts the hits of the page: the
text is compiled without the blanks, the wrapped body is the only one that is sent, and what is
found is what the second hook makes of the results. -/
theorem search_course_revised :
    let reply : Reply := { total := some 7, hits := some [{ id := ⟨"a"⟩ }] }
    let service : Service :=
      { backend := fun _ => .ok reply
        catalog := ({ taxonomies := ["color"] } : CatalogTable).toCatalog
        hooks :=
          { requestBody := some fun body => .object [("search", body)]
            results := some fun results _ => { results with total := results.ids.length } } }
    let request : Request := { text := " red\t" }
    let run := service.search request
    let decoded : Results :=
      { total := 7, ids := [⟨"a"⟩], groups := [⟨⟨"1"⟩, [⟨⟨"a"⟩, 0, []⟩]⟩] }
    (Course.answered reply).Applies service request ∧
      (service.compile request).fullText.map FullText.query = some "red" ∧
      run.value = .ok (.found { decoded with total := 1 }) ∧
      ∃ body : Entries Json, Entries.get? body "size" = some (.nat 10) ∧
        run.events = service.compiling request ++
          [.requestBody (.object body), .sent (.object [("search", .object body)]),
            .results decoded reply] := by
  intro reply service request run decoded
  have happlies : (Course.answered reply).Applies service request :=
    ⟨⟨rfl, by decide, by decide +kernel⟩, rfl⟩
  obtain ⟨⟨-, -, body, hbody, hsent, hasked⟩, -, hexplains, -⟩ := search_course service request
  obtain ⟨-, -, hfound⟩ := hexplains _ happlies
  obtain ⟨results, hresults, -, hvalue, hevents⟩ := hfound (by decide)
  cases hresults
  rw [hasked, hsent, List.append_assoc] at hevents
  exact ⟨happlies, by decide +kernel, hvalue, body, hbody.size, hevents⟩
end Faceted
