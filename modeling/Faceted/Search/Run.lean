import Faceted.Search.Body
import Faceted.Search.Compile
import Faceted.Text.Blank

/-!
# Running a search

A search compiles its request, asks the search engine once if there is anything to ask, and decodes
the reply. What it does on the way (the hooks it consults, the body it sends) is listed as events,
so that one can see what was done as well as what came out.

## Main definitions

* `Request` — a search to run
* `Service` — a search engine with a catalog, hooks and settings
* `Event`, `Traced` — what is done on the way
* `Service.execute` — sends a query
* `Service.search` — runs a search
* `Outcome` — what comes of a search
-/

namespace Faceted

/-- A search to run. -/
structure Request where
  text : String := ""
  page : Page := {}
  selections : Selections := []
  /-- The tenant that hits belong to if they name none. -/
  tenant : Option TenantId := none

/-- A search engine: what it answers to the body of a request. -/
abbrev Backend := Json → Except BackendError Reply

/-- A search engine with all that searches need. -/
structure Service where
  backend : Backend
  catalog : Catalog
  hooks : Hooks := {}
  settings : SearchSettings := {}

/-- Something done on the way. All but `sent` are points at which a hook is consulted, with what it
is given; they are reached whether or not the hook is set. -/
inductive Event where
  | excludedFields (fields : List String)
  | language (name : String)
  | fullText (clause : FullText)
  | fragment (query : Query)
  | requestBody (body : Json)
  | sent (body : Json)
  | failure (error : BackendError)
  | results (results : Results) (reply : Reply)

/-- A value and what was done to get it. -/
structure Traced (α : Type) where
  value : α
  events : List Event := []

/-- What comes of sending a query. -/
inductive Execution where
  /-- There was nothing to search for, and nothing was sent. -/
  | skipped
  | completed (reply : Reply)
  | unavailable (error : BackendError)

/-- What comes of a search. -/
inductive Outcome where
  | found (results : Results)
  /-- There was nothing to search for. -/
  | empty
  /-- The search engine failed, which is not the same as nothing found. -/
  | unavailable (error : BackendError)
  /-- Search is switched off in the catalog. -/
  | disabled

namespace Outcome

/-- The results to show: none of a search that did not take place. -/
def results? : Outcome → Option Results
  | .found results => some results
  | .empty => some {}
  | .unavailable _ => none
  | .disabled => none

/-- Whether the search engine failed. -/
def isUnavailable : Outcome → Bool
  | .unavailable _ => true
  | _ => false

end Outcome

namespace Service

/-- The query of a request; blanks around its text do not count. -/
def compile (service : Service) (request : Request) : Query :=
  Faceted.compile service.catalog service.hooks service.settings.tenant (Text.trim request.text)
    request.selections

/-- The hooks that compiling a text consults. -/
def compileEvents (service : Service) (text : String) (selections : Selections) : List Event :=
  [.excludedFields Compile.defaultExcluded, .language Compile.defaultLanguage]
    ++ ((Compile.hookedFullText service.catalog service.hooks text).map Event.fullText).toList
    ++ [.fragment
        (Compile.draft service.catalog service.hooks service.settings.tenant text selections)]

/-- The body that is sent for a page of a query. -/
def requestBody (service : Service) (query : Query) (page : Page) : Json :=
  service.hooks.applyRequestBody (.object (query.body service.settings page))

/-- Sends a query, unless it is empty. Failures of the search engine are outcomes; the only error is
a page without results. -/
def execute (service : Service) (query : Query) (page : Page) :
    Traced (Except SearchError Execution) :=
  if page.size = 0 then { value := .error .emptyPage }
  else if query.isEmpty then { value := .ok .skipped }
  else
    let body := service.requestBody query page
    let events := [.requestBody (.object (query.body service.settings page)), .sent body]
    match service.backend body with
    | .ok reply => { value := .ok (.completed reply), events := events }
    | .error error => { value := .ok (.unavailable error), events := events ++ [.failure error] }

/-- The outcome of a reply to a query. -/
def conclude (service : Service) (request : Request) (query : Query) (reply : Reply) :
    Traced (Except SearchError Outcome) :=
  match reply.decode query.aggregationNames
      (request.tenant.getD service.settings.tenant.fallback) with
  | .error gap => { value := .error (.malformedReply gap.message) }
  | .ok results =>
    { value := .ok (.found (service.hooks.applyResults results reply))
      events := [.results results reply] }

/-- Runs a search. -/
def search (service : Service) (request : Request) : Traced (Except SearchError Outcome) :=
  if !service.catalog.enabled then { value := .ok .disabled }
  else if request.page.size = 0 then { value := .error .emptyPage }
  else
    let query := service.compile request
    let compiling := service.compileEvents (Text.trim request.text) request.selections
    let execution := service.execute query request.page
    match execution.value with
    | .error error => { value := .error error, events := compiling ++ execution.events }
    | .ok .skipped => { value := .ok .empty, events := compiling ++ execution.events }
    | .ok (.unavailable error) =>
      { value := .ok (.unavailable error), events := compiling ++ execution.events }
    | .ok (.completed reply) =>
      let conclusion := service.conclude request query reply
      { conclusion with events := compiling ++ execution.events ++ conclusion.events }

end Service

end Faceted
