import Faceted.Backend.Exchange
import Faceted.Proofs.Backend.Refusal
import Faceted.Proofs.Search.Course
import Faceted.Proofs.Text.Utf8

/-!
# What an exchange means for a search

A search over a network delivers an exchange: none in time, none at all, or an answer with a status
and a body that may have broken off. The exchange is looked at in several places, by the status, as
an answer to a refused query, as a response, as a reply and as results, and each of them has errors
of its own. This file says what comes out in the end: every exchange has exactly one verdict, and
the verdict is what the search shows. That the engine is unavailable is told apart from a response
that lacks something, and whoever is told of failures is told once of each and of nothing else.

## Main definitions

* `Exchange.GivesReason` — the reason for which a body refuses a query
* `Response.IsIncomplete` — a response lacks its total or its hits
* `Verdict` — what comes of an exchange
* `Verdict.Applies`, `Verdict.Shows` — when it comes, and how a search shows it

## Main results

* `Verdict.existsUnique_applies` — every exchange has exactly one verdict
* `Service.failures_search` — failures are told once each
* `search_overNetwork` — a search shows the verdict of its exchange
-/

namespace Faceted

/-! ### Refusals and incomplete responses -/

namespace Exchange

/-- The reason for which a body refuses a query: what the text of the body states, or else the text
itself. -/
inductive GivesReason (body : List UInt8) : String → Prop where
  | stated {text reason : String} (htext : Text.Utf8.Spells body text.toList)
      (hstated : Refusal.States text reason) : GivesReason body reason
  | wholeText {text : String} (htext : Text.Utf8.Spells body text.toList)
      (hsilent : ∀ reason, ¬ Refusal.States text reason) : GivesReason body text

/-- A text states the reason of the refusal that is read from it, and if none is
read, then no reason. -/
theorem refusalReason_eq_iff {body : List UInt8} {reason : String} :
    refusalReason body = reason ↔
      Refusal.States (Text.Utf8.decode body) reason ∨
        (∀ other, ¬ Refusal.States (Text.Utf8.decode body) other) ∧
          Text.Utf8.decode body = reason := by
  simp only [Refusal.states_iff]
  cases hread : (Written.ofText? (Text.Utf8.decode body)).bind Refusal.read? with
  | none => simp [refusalReason, hread]
  | some refusal => simp [refusalReason, hread]

/-- A body gives exactly one reason. -/
theorem givesReason_iff (body : List UInt8) (reason : String) :
    GivesReason body reason ↔ reason = refusalReason body := by
  rw [eq_comm, refusalReason_eq_iff]
  constructor
  · intro h
    cases h with
    | stated htext hstated =>
      obtain rfl := Text.Utf8.spells_iff.1 htext
      exact Or.inl hstated
    | wholeText htext hsilent =>
      obtain rfl := Text.Utf8.spells_iff.1 htext
      exact Or.inr ⟨hsilent, rfl⟩
  · rintro (hstated | ⟨hsilent, rfl⟩)
    · exact .stated (Text.Utf8.spells_iff.2 rfl) hstated
    · exact .wholeText (Text.Utf8.spells_iff.2 rfl) hsilent

/-- A status stands for success. -/
def IsSuccess (status : Nat) : Prop :=
  200 ≤ status ∧ status < 300

theorem isSuccess_eq_true_iff (status : Nat) : isSuccess status = true ↔ IsSuccess status := by
  rw [isSuccess, Bool.and_eq_true, decide_eq_true_eq, decide_eq_true_eq, IsSuccess]

end Exchange

/-- A response lacks what results are made of: it has no section with hits, or the section lacks the
total or the list of hits. -/
def Response.IsIncomplete (response : Response) : Prop :=
  response.hits = none ∨
    ∃ listed, response.hits = some listed ∧ (listed.total = none ∨ listed.hits = none)

theorem Response.isIncomplete_iff (response : Response) (field : String) :
    response.IsIncomplete ↔
      (Reply.ofResponse field response).total = none ∨
        (Reply.ofResponse field response).hits = none := by
  rw [IsIncomplete, Reply.ofResponse]
  cases response.hits with
  | none => simp
  | some listed => simp

/-! ### Verdicts -/

/-- What comes of an exchange. -/
inductive Verdict where
  | timedOut
  /-- The engine was not reached, or did not finish its refusal. -/
  | transport
  | rejected (status : Nat) (reason : String)
  /-- The engine answered, but no whole response. -/
  | unreadable
  /-- The response lacks its total or its hits. -/
  | incomplete
  | found

namespace Verdict

open Exchange

/-- When an exchange has this verdict. -/
def Applies (exchange : Exchange) : Verdict → Prop
  | .timedOut => exchange = .timedOut
  | .transport =>
    (∃ reason, exchange = .unanswered reason) ∨
      ∃ status body, ¬ IsSuccess status ∧ exchange = .answered status body false
  | .rejected status reason =>
    ¬ IsSuccess status ∧ ∃ body, exchange = .answered status body true ∧ GivesReason body reason
  | .unreadable =>
    ∃ status body complete, IsSuccess status ∧ exchange = .answered status body complete ∧
      (complete = false ∨ Response.ofBytes? body = none)
  | .incomplete =>
    ∃ status body response, IsSuccess status ∧ exchange = .answered status body true ∧
      Response.ofBytes? body = some response ∧ response.IsIncomplete
  | .found =>
    ∃ status body response, IsSuccess status ∧ exchange = .answered status body true ∧
      Response.ofBytes? body = some response ∧ ¬ response.IsIncomplete

/-- How the outcome of a search shows this verdict. -/
def Shows (outcome : Except SearchError Outcome) : Verdict → Prop
  | .timedOut => outcome = .ok (.unavailable .timedOut)
  | .transport => ∃ message, outcome = .ok (.unavailable (.transport message))
  | .rejected status reason => outcome = .ok (.unavailable (.rejected status reason))
  | .unreadable => ∃ message, outcome = .ok (.unavailable (.unreadable message))
  | .incomplete => ∃ message, outcome = .error (.malformedReply message)
  | .found => ∃ results, outcome = .ok (.found results)

section Applies

variable {status : Nat} {body : List UInt8} {verdict : Verdict}

theorem applies_timedOut_iff : verdict.Applies .timedOut ↔ verdict = .timedOut := by
  cases verdict <;> simp [Applies]

theorem applies_unanswered_iff {reason : String} :
    verdict.Applies (.unanswered reason) ↔ verdict = .transport := by
  cases verdict <;> simp [Applies]

/-- An answer is refused with its own status. -/
theorem rejected_applies_answered_iff {other : Nat} {reason : String} {complete : Bool} :
    (Verdict.rejected other reason).Applies (.answered status body complete) ↔
      other = status ∧ ¬ IsSuccess status ∧ complete = true ∧ GivesReason body reason := by
  simp only [Applies, answered.injEq]
  constructor
  · rintro ⟨hstatus, body, ⟨rfl, rfl, rfl⟩, hreason⟩
    exact ⟨rfl, hstatus, rfl, hreason⟩
  · rintro ⟨rfl, hstatus, rfl, hreason⟩
    exact ⟨hstatus, body, ⟨rfl, rfl, rfl⟩, hreason⟩

theorem applies_cutOff_refusal_iff (hstatus : ¬ IsSuccess status) :
    verdict.Applies (.answered status body false) ↔ verdict = .transport := by
  cases verdict <;> simp [Applies, hstatus]

theorem applies_refusal_iff (hstatus : ¬ IsSuccess status) :
    verdict.Applies (.answered status body true) ↔
      verdict = .rejected status (refusalReason body) := by
  cases verdict with
  | rejected other reason =>
    simp [rejected_applies_answered_iff, givesReason_iff, hstatus]
  | timedOut | transport | unreadable | incomplete | found => simp [Applies, hstatus]

/-- A body that is no response is unreadable even if it is whole. -/
theorem applies_unreadable_iff (hstatus : IsSuccess status) {complete : Bool}
    (h : complete = false ∨ Response.ofBytes? body = none) :
    verdict.Applies (.answered status body complete) ↔ verdict = .unreadable := by
  cases verdict with
  | rejected other reason => simp [rejected_applies_answered_iff, hstatus]
  | timedOut | transport | unreadable | incomplete | found =>
    rcases h with rfl | h <;> simp [Applies, *]

theorem applies_incomplete_iff (hstatus : IsSuccess status) {response : Response}
    (h : Response.ofBytes? body = some response) (hincomplete : response.IsIncomplete) :
    verdict.Applies (.answered status body true) ↔ verdict = .incomplete := by
  cases verdict with
  | rejected other reason => simp [rejected_applies_answered_iff, hstatus]
  | timedOut | transport | unreadable | incomplete | found => simp [Applies, *]

theorem applies_found_iff (hstatus : IsSuccess status) {response : Response}
    (h : Response.ofBytes? body = some response) (hcomplete : ¬ response.IsIncomplete) :
    verdict.Applies (.answered status body true) ↔ verdict = .found := by
  cases verdict with
  | rejected other reason => simp [rejected_applies_answered_iff, hstatus]
  | timedOut | transport | unreadable | incomplete | found => simp [Applies, *]

end Applies

theorem existsUnique_applies (exchange : Exchange) :
    ∃! verdict : Verdict, verdict.Applies exchange := by
  suffices h : ∃ verdict : Verdict, ∀ other : Verdict, other.Applies exchange ↔ other = verdict by
    obtain ⟨verdict, h⟩ := h
    exact ⟨verdict, (h verdict).2 rfl, fun other => (h other).1⟩
  -- The status decides whether the body is that of a response or of a refusal.
  cases exchange with
  | timedOut => exact ⟨_, fun _ => applies_timedOut_iff⟩
  | unanswered reason => exact ⟨_, fun _ => applies_unanswered_iff⟩
  | answered status body complete =>
    by_cases hstatus : IsSuccess status
    · cases hresponse : Response.ofBytes? body with
      | none => exact ⟨_, fun _ => applies_unreadable_iff hstatus (Or.inr hresponse)⟩
      | some response =>
        cases complete with
        | false => exact ⟨_, fun _ => applies_unreadable_iff hstatus (Or.inl rfl)⟩
        | true =>
          by_cases hincomplete : response.IsIncomplete
          · exact ⟨_, fun _ => applies_incomplete_iff hstatus hresponse hincomplete⟩
          · exact ⟨_, fun _ => applies_found_iff hstatus hresponse hincomplete⟩
    · cases complete with
      | false => exact ⟨_, fun _ => applies_cutOff_refusal_iff hstatus⟩
      | true => exact ⟨_, fun _ => applies_refusal_iff hstatus⟩

/-- The verdict that an outcome shows. -/
def ofOutcome? : Except SearchError Outcome → Option Verdict
  | .ok (.unavailable .timedOut) => some .timedOut
  | .ok (.unavailable (.transport _)) => some .transport
  | .ok (.unavailable (.rejected status reason)) => some (.rejected status reason)
  | .ok (.unavailable (.unreadable _)) => some .unreadable
  | .error (.malformedReply _) => some .incomplete
  | .ok (.found _) => some .found
  | _ => none

theorem Shows.ofOutcome?_eq {outcome : Except SearchError Outcome} {verdict : Verdict}
    (h : verdict.Shows outcome) : ofOutcome? outcome = some verdict := by
  cases verdict with
  | timedOut => rw [h]; rfl
  | rejected status reason => rw [h]; rfl
  | transport | unreadable =>
    obtain ⟨message, rfl⟩ := h
    rfl
  | incomplete =>
    obtain ⟨message, rfl⟩ := h
    rfl
  | found =>
    obtain ⟨results, rfl⟩ := h
    rfl

/-- An outcome shows one verdict at most. -/
theorem Shows.unique {outcome : Except SearchError Outcome} {verdict other : Verdict}
    (h : verdict.Shows outcome) (hother : other.Shows outcome) : verdict = other :=
  Option.some.inj (h.ofOutcome?_eq.symm.trans hother.ofOutcome?_eq)

end Verdict

/-! ### Replies of an exchange -/

namespace Exchange

variable (field : String) {status : Nat} {body : List UInt8}

theorem reply_of_cutOff_refusal (hstatus : ¬ IsSuccess status) :
    ∃ message, (answered status body false).reply field = .error (.transport message) := by
  rw [← isSuccess_eq_true_iff] at hstatus
  simp [reply, response, hstatus, ExchangeError.cutOff, ExchangeError.toBackendError]

theorem reply_of_refusal (hstatus : ¬ IsSuccess status) :
    (answered status body true).reply field = .error (.rejected status (refusalReason body)) := by
  rw [← isSuccess_eq_true_iff] at hstatus
  simp [reply, response, hstatus, ExchangeError.toBackendError]

theorem reply_of_unreadable (hstatus : IsSuccess status) {complete : Bool}
    (h : complete = false ∨ Response.ofBytes? body = none) :
    ∃ message, (answered status body complete).reply field = .error (.unreadable message) := by
  have unparsable : (answered status body complete).response = .error .unparsable := by
    rw [response, if_pos ((isSuccess_eq_true_iff status).2 hstatus)]
    rcases h with rfl | h
    · simp
    · simp [h]
  rw [reply, unparsable]
  exact ⟨_, rfl⟩

theorem reply_of_response (hstatus : IsSuccess status) {response : Response}
    (h : Response.ofBytes? body = some response) :
    (answered status body true).reply field = .ok (Reply.ofResponse field response) := by
  have parsed : (answered status body true).response = .ok response := by
    rw [Exchange.response, if_pos ((isSuccess_eq_true_iff status).2 hstatus)]
    simp [h]
  rw [reply, parsed]

end Exchange

/-! ### What a search shows -/

/-- What somebody is told of with an event, if it is a failure of the engine. -/
def Event.failure? : Event → Option BackendError
  | .failure error => some error
  | _ => none

/-- The failures of the engine that somebody is told of during a run. -/
def Traced.failures {α : Type} (run : Traced α) : List BackendError :=
  run.events.filterMap Event.failure?

section Search

variable {service : Service} {request : Request}

theorem Service.filterMap_failure?_asked :
    (service.compiling request ++ service.asking request).filterMap Event.failure? = [] := by
  have compiling : (service.compiling request).filterMap Event.failure? = [] := by
    refine List.filterMap_eq_nil_iff.2 fun event hevent => ?_
    have hcompiling := Service.isCompiling_of_mem hevent
    cases event with
    | failure error => exact hcompiling.elim
    | _ => rfl
  rw [List.filterMap_append, compiling]
  rfl

/-- A search that asks the engine tells of a failure exactly if the engine is unavailable, and then
of that failure and once. -/
theorem Service.failures_search (hasks : service.Asks request) :
    (∀ error, (service.search request).value = .ok (.unavailable error) →
        (service.search request).failures = [error]) ∧
      ((∀ error, (service.search request).value ≠ .ok (.unavailable error)) →
        (service.search request).failures = []) := by
  rcases hanswer : service.backend (service.sentBody request) with error | reply
  · rw [search_of_error hasks hanswer, Traced.failures, List.filterMap_append,
      Service.filterMap_failure?_asked]
    exact ⟨fun _ h => by cases h; rfl, fun h => absurd rfl (h error)⟩
  · -- What is done with a reply is told to the hook of results, if to any.
    obtain ⟨hincomplete, hevents, hfound⟩ := Course.explains_answered hasks hanswer
    by_cases hgap : reply.total = none ∨ reply.hits = none
    · obtain ⟨message, hvalue⟩ := hincomplete.2 hgap
      rw [Traced.failures, hevents hgap, Service.filterMap_failure?_asked, hvalue]
      exact ⟨nofun, fun _ => rfl⟩
    · obtain ⟨results, -, -, hvalue, hevents⟩ := hfound hgap
      rw [Traced.failures, hevents, List.filterMap_append, Service.filterMap_failure?_asked, hvalue]
      exact ⟨nofun, fun _ => rfl⟩

/-- A search over a network shows the verdict of its exchange. -/
theorem Verdict.Applies.shows {network : Json → Exchange} {field : String}
    (hbackend : service.backend = .overNetwork network field) (hasks : service.Asks request)
    {verdict : Verdict} (h : verdict.Applies (network (service.sentBody request))) :
    verdict.Shows (service.search request).value := by
  have answer : service.backend (service.sentBody request) =
      (network (service.sentBody request)).reply field := by
    rw [hbackend, Backend.overNetwork]
  -- Whatever error the backend returns, the search shows it as it is.
  have failed {error : BackendError} (herror : (network (service.sentBody request)).reply field =
      .error error) : (service.search request).value = .ok (.unavailable error) := by
    rw [search_of_error hasks (answer.trans herror)]
  cases verdict with
  | timedOut => exact failed (congrArg (Exchange.reply field) h)
  | transport =>
    rcases h with ⟨reason, h⟩ | ⟨status, body, hstatus, h⟩
    · exact ⟨reason, failed (congrArg (Exchange.reply field) h)⟩
    · obtain ⟨message, hreply⟩ := Exchange.reply_of_cutOff_refusal field hstatus
      exact ⟨message, failed (h ▸ hreply)⟩
  | rejected status reason =>
    obtain ⟨hstatus, body, h, hreason⟩ := h
    obtain rfl := (Exchange.givesReason_iff body reason).1 hreason
    exact failed (h ▸ Exchange.reply_of_refusal field hstatus)
  | unreadable =>
    obtain ⟨status, body, complete, hstatus, h, hbody⟩ := h
    obtain ⟨message, hreply⟩ := Exchange.reply_of_unreadable field hstatus hbody
    exact ⟨message, failed (h ▸ hreply)⟩
  | incomplete =>
    obtain ⟨status, body, response, hstatus, h, hresponse, hincomplete⟩ := h
    have hreply := Exchange.reply_of_response field hstatus hresponse
    have hanswer := answer.trans (h ▸ hreply)
    exact (Course.explains_answered hasks hanswer).1.2
      ((response.isIncomplete_iff field).1 hincomplete)
  | found =>
    obtain ⟨status, body, response, hstatus, h, hresponse, hcomplete⟩ := h
    have hreply := Exchange.reply_of_response field hstatus hresponse
    have hanswer := answer.trans (h ▸ hreply)
    obtain ⟨results, -, -, hvalue, -⟩ := (Course.explains_answered hasks hanswer).2.2
      (mt (response.isIncomplete_iff field).2 hcomplete)
    exact ⟨_, hvalue⟩

end Search

/-- A search that asks an engine behind a network shows the one verdict of its exchange and no
other. If that is that the engine is unavailable, then the failure is told once; otherwise none is
told, not even of a response that lacks its total or its hits. -/
theorem search_overNetwork (service : Service) (request : Request) (network : Json → Exchange)
    (field : String) (hbackend : service.backend = .overNetwork network field)
    (hasks : service.Asks request) :
    let exchange := network (service.sentBody request)
    let run := service.search request
    (∃! verdict : Verdict, verdict.Applies exchange) ∧
      (∀ verdict : Verdict, verdict.Shows run.value ↔ verdict.Applies exchange) ∧
      (∀ error, run.value = .ok (.unavailable error) → run.failures = [error]) ∧
      ((∀ error, run.value ≠ .ok (.unavailable error)) → run.failures = []) := by
  intro exchange run
  refine ⟨Verdict.existsUnique_applies exchange, fun verdict => ⟨fun h => ?_, fun h => ?_⟩,
    Service.failures_search hasks⟩
  · -- Some verdict applies, and what it shows is told apart from what all others show.
    obtain ⟨actual, hactual, -⟩ := Verdict.existsUnique_applies exchange
    rwa [h.unique (hactual.shows hbackend hasks)]
  · exact h.shows hbackend hasks

/-- A query is refused for the type and the reason of an error, for the type alone, for the error,
or for the text of the body, in which a byte that begins no character is replaced. The whole
response `{"hits":{"total":5}}`, which has no list of hits, is refused as malformed, and nobody is
told of a failure. -/
theorem search_overNetwork_refused :
    let bytes (json : Json) : List UInt8 := json.compact.toList.flatMap String.utf8EncodeChar
    let detailed : Json := .object [("type", .text "parsing"), ("reason", .text "no query")]
    let kindOnly : Json := .object [("type", .text "parsing"), ("reason", .null)]
    let refusals : List (List UInt8 × String) :=
      [(bytes (.object [("error", detailed), ("status", .number (.integer 400))]),
          "parsing: no query"),
        (bytes (.object [("error", kindOnly)]), "parsing"),
        (bytes (.object [("error", .text "no index")]), "no index"),
        ([0x42, 0x61, 0x64, 0x20, 0xFF], "Bad \ufffd")]
    let totalOnly : List UInt8 :=
      [123, 34, 104, 105, 116, 115, 34, 58, 123, 34, 116, 111, 116, 97, 108, 34, 58, 53, 125, 125]
    let network (exchange : Exchange) : Json → Exchange := fun _ => exchange
    let service (exchange : Exchange) : Service :=
      { backend := .overNetwork (network exchange) "blog_id"
        catalog := ({ customFacets := ["color"] } : CatalogTable).toCatalog }
    let request : Request := { selections := [("color", .exact "red")] }
    let run (exchange : Exchange) := (service exchange).search request
    (∀ exchange, (service exchange).backend = .overNetwork (network exchange) "blog_id" ∧
        (service exchange).Asks request) ∧
      (∀ refusal ∈ refusals,
        let error : BackendError := .rejected 400 refusal.2
        (run (.answered 400 refusal.1 true)).value = .ok (.unavailable error) ∧
          (run (.answered 400 refusal.1 true)).failures = [error]) ∧
      (∃ message, (run (.answered 200 totalOnly true)).value = .error (.malformedReply message)) ∧
      (run (.answered 200 totalOnly true)).failures = [] := by
  intro bytes detailed kindOnly refusals totalOnly network service request run
  have hasks (exchange : Exchange) : (service exchange).Asks request := by
    have hquery : ((service .timedOut).compile request).isEmpty = false := by decide
    exact ⟨rfl, by decide, hquery⟩
  have hrun (exchange : Exchange) :=
    search_overNetwork (service exchange) request (network exchange) "blog_id" rfl (hasks exchange)
  have hreasons : ∀ refusal ∈ refusals, refusal.2 = Exchange.refusalReason refusal.1 := by
    simp only [refusals, List.forall_mem_cons, bytes, detailed, kindOnly]
    refine ⟨?_, ?_, ?_, ?_, nofun⟩ <;> decide +kernel
  have hresponse : Response.ofBytes? totalOnly =
      some ⟨none, false, some ⟨some (.count 5), none⟩, none⟩ := rfl
  refine ⟨fun exchange => ⟨rfl, hasks exchange⟩, fun refusal hrefusal => ?_, ?_⟩
  · obtain ⟨-, hshows, htold, -⟩ := hrun (.answered 400 refusal.1 true)
    have hvalue := (hshows (.rejected 400 refusal.2)).2
      ⟨by simp [Exchange.IsSuccess], refusal.1, rfl,
        (Exchange.givesReason_iff refusal.1 refusal.2).2 (hreasons refusal hrefusal)⟩
    exact ⟨hvalue, htold _ hvalue⟩
  · obtain ⟨-, hshows, -, hquiet⟩ := hrun (.answered 200 totalOnly true)
    obtain ⟨message, hvalue⟩ := (hshows .incomplete).2
      ⟨200, totalOnly, _, by simp [Exchange.IsSuccess], rfl, hresponse, Or.inr ⟨_, rfl, Or.inr rfl⟩⟩
    refine ⟨⟨message, hvalue⟩, hquiet fun error h => ?_⟩
    rw [hvalue] at h
    cases h

end Faceted
