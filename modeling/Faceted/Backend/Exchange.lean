import Faceted.Backend.Response
import Faceted.Search.Run
import Faceted.Text.Utf8

/-!
# Exchanges with the search engine

A search engine is reached over a network. What the network delivers for the body of a request
is an exchange: a whole or broken answer, none, or none in time. Every exchange has exactly
one meaning for the search.

## Main definitions

* `Exchange` — what the network delivers
* `ExchangeError` — what may be wrong with it
* `Exchange.response` — the response of an exchange, or what is wrong
* `Backend.overNetwork` — the search engine behind a network
-/

namespace Faceted

/-- What the network delivers for a request. -/
inductive Exchange where
  | timedOut
  /-- No answer came, for this reason. -/
  | unanswered (reason : String)
  /-- An answer came; its body is not `complete` if it broke off. -/
  | answered (status : Nat) (body : List UInt8) (complete : Bool)

/-- What may be wrong with an exchange. -/
inductive ExchangeError where
  | timeout
  | response (message : String)
  | query (status : Nat) (reason : String)
  | parsing (message : String)
  | other (message : String)
deriving DecidableEq, Repr

namespace ExchangeError

/-- What is said of the error. -/
def message : ExchangeError → String
  | .timeout => "Timeout"
  | .response message => "ResponseError: " ++ message
  | .query status reason => "QueryError (" ++ toString status ++ "): " ++ reason
  | .parsing message => "ParsingError: " ++ message
  | .other message => "Other: " ++ message

/-- What the error means for the search. -/
def toBackendError : ExchangeError → BackendError
  | .timeout => .timedOut
  | .response message => .transport message
  | .query status reason => .rejected status reason
  | .parsing message => .unreadable message
  | .other message => .transport message

/-- The body of a successful answer is no search response. -/
def unparsable : ExchangeError :=
  .parsing "Failed to parse response as JSON: error decoding response body"

/-- The body of an answer broke off. -/
def cutOff : ExchangeError :=
  .response "error decoding response body"

end ExchangeError

namespace Exchange

/-- Whether a status stands for success. -/
def isSuccess (status : Nat) : Bool :=
  200 ≤ status && status < 300

/-- The reason that a body gives for refusing a query: what it says if it is an answer to a refused
query, and otherwise its text. -/
def refusalReason (body : List UInt8) : String :=
  let text := Text.Utf8.decode body
  match (Written.ofText? text).bind Refusal.read? with
  | some refusal => refusal.error.text
  | none => text

/-- The response of an exchange, or what is wrong with it. -/
def response : Exchange → Except ExchangeError Response
  | .timedOut => .error .timeout
  | .unanswered reason => .error (.response reason)
  | .answered status body complete =>
    if isSuccess status then
      match complete, Response.ofBytes? body with
      | true, some response => .ok response
      | _, _ => .error .unparsable
    else if complete then .error (.query status (refusalReason body))
    else .error .cutOff

/-- What an exchange means for a search. -/
def reply (tenantField : String) (exchange : Exchange) : Except BackendError Reply :=
  match exchange.response with
  | .ok response => .ok (Reply.ofResponse tenantField response)
  | .error error => .error error.toBackendError

end Exchange

/-- The search engine behind a network, whose documents name their tenant in a field. -/
def Backend.overNetwork (network : Json → Exchange) (tenantField : String) : Backend :=
  fun body => (network body).reply tenantField

end Faceted
