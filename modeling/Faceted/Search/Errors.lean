/-!
# What can go wrong

A search engine that fails is not an error of the search: the search then has no results, which is
told apart from having found none. Errors are bad requests, replies that cannot be decoded, and
documents that cannot be loaded.

## Main definitions

* `BackendError` — why a search engine gave no reply
* `SearchError` — why a search has no outcome
-/

namespace Faceted

/-- Why a search engine gave no reply. -/
inductive BackendError where
  | timedOut
  /-- The engine could not be reached, or did not finish its answer. -/
  | transport (message : String)
  /-- The engine answered that the query is not acceptable. -/
  | rejected (status : Nat) (reason : String)
  /-- The answer is no search response. -/
  | unreadable (message : String)
deriving DecidableEq, Repr

/-- What is said of the failure. -/
def BackendError.message : BackendError → String
  | .timedOut => "search backend timed out"
  | .transport message => "transport error: " ++ message
  | .rejected status reason => "backend rejected query (" ++ toString status ++ "): " ++ reason
  | .unreadable message => "unreadable backend response: " ++ message

/-- Why a search has no outcome. -/
inductive SearchError where
  | configuration (message : String)
  | malformedReply (message : String)
  | resolution (message : String)
deriving DecidableEq, Repr

namespace SearchError

/-- What is said of the error. -/
def message : SearchError → String
  | .configuration message => "Configuration error: " ++ message
  | .malformedReply message => "Malformed response: " ++ message
  | .resolution message => "Document resolution failed: " ++ message

/-- A page must hold at least one result. -/
def emptyPage : SearchError := .configuration "page_size must be at least 1"

end SearchError

end Faceted
