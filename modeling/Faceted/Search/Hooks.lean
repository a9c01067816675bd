import Faceted.Query.Basic
import Faceted.Search.Errors
import Faceted.Search.Results

/-!
# Hooks

A host can step in at fixed points of a search. A hook that is not set leaves what it is given
unchanged.

## Main definitions

* `Hooks` — the hooks that are set
* `Hooks.applyExcludedFields` and its companions — what a point passes on
* `Hooks.summary` — which hooks are set
-/

namespace Faceted

/-- The hooks that are set. -/
structure Hooks where
  /-- The fields that are neither scored nor filtered on. -/
  excludedFields : Option (List String → List String) := none
  /-- The language whose analyzer scored fields use. -/
  language : Option (String → String) := none
  /-- The text clause. -/
  fullText : Option (FullText → FullText) := none
  /-- A fragment that is laid over the document of the query. -/
  fragment : Option (Query → Entries Json) := none
  /-- The body that is sent. -/
  requestBody : Option (Json → Json) := none
  /-- Whether somebody is told when the search engine fails. -/
  failure : Bool := false
  /-- The decoded results. -/
  results : Option (Results → Reply → Results) := none

namespace Hooks

/-- The excluded fields, from the default ones. -/
def applyExcludedFields (hooks : Hooks) (fields : List String) : List String :=
  (hooks.excludedFields.getD id) fields

/-- The language, from the default one. -/
def applyLanguage (hooks : Hooks) (language : String) : String :=
  (hooks.language.getD id) language

/-- The text clause, from the compiled one. -/
def applyFullText (hooks : Hooks) (clause : FullText) : FullText :=
  (hooks.fullText.getD id) clause

/-- The fragment for a query; none if nobody gives one. -/
def applyFragment (hooks : Hooks) (query : Query) : Entries Json :=
  match hooks.fragment with
  | some fragment => fragment query
  | none => []

/-- The body that is sent, from the finished one. -/
def applyRequestBody (hooks : Hooks) (body : Json) : Json :=
  (hooks.requestBody.getD id) body

/-- The results, from the decoded ones. -/
def applyResults (hooks : Hooks) (results : Results) (reply : Reply) : Results :=
  match hooks.results with
  | some revise => revise results reply
  | none => results

/-! ### Hooks that are set, and hooks that are not -/

section Apply

variable {hooks : Hooks}

@[simp] theorem applyExcludedFields_of_none (h : hooks.excludedFields = none)
    (fields : List String) : hooks.applyExcludedFields fields = fields := by
  rw [applyExcludedFields, h, Option.getD_none, id]

theorem applyExcludedFields_of_some {revise : List String → List String}
    (h : hooks.excludedFields = some revise) (fields : List String) :
    hooks.applyExcludedFields fields = revise fields := by
  rw [applyExcludedFields, h, Option.getD_some]

@[simp] theorem applyLanguage_of_none (h : hooks.language = none) (language : String) :
    hooks.applyLanguage language = language := by
  rw [applyLanguage, h, Option.getD_none, id]

theorem applyLanguage_of_some {revise : String → String} (h : hooks.language = some revise)
    (language : String) : hooks.applyLanguage language = revise language := by
  rw [applyLanguage, h, Option.getD_some]

@[simp] theorem applyFullText_of_none (h : hooks.fullText = none) (clause : FullText) :
    hooks.applyFullText clause = clause := by
  rw [applyFullText, h, Option.getD_none, id]

theorem applyFullText_of_some {revise : FullText → FullText} (h : hooks.fullText = some revise)
    (clause : FullText) : hooks.applyFullText clause = revise clause := by
  rw [applyFullText, h, Option.getD_some]

@[simp] theorem applyFragment_of_none (h : hooks.fragment = none) (query : Query) :
    hooks.applyFragment query = [] := by
  rw [applyFragment, h]

theorem applyFragment_of_some {fragment : Query → Entries Json} (h : hooks.fragment = some fragment)
    (query : Query) : hooks.applyFragment query = fragment query := by
  rw [applyFragment, h]

@[simp] theorem applyRequestBody_of_none (h : hooks.requestBody = none) (body : Json) :
    hooks.applyRequestBody body = body := by
  rw [applyRequestBody, h, Option.getD_none, id]

theorem applyRequestBody_of_some {revise : Json → Json} (h : hooks.requestBody = some revise)
    (body : Json) : hooks.applyRequestBody body = revise body := by
  rw [applyRequestBody, h, Option.getD_some]

@[simp] theorem applyResults_of_none (h : hooks.results = none) (results : Results)
    (reply : Reply) : hooks.applyResults results reply = results := by
  rw [applyResults, h]

theorem applyResults_of_some {revise : Results → Reply → Results} (h : hooks.results = some revise)
    (results : Results) (reply : Reply) :
    hooks.applyResults results reply = revise results reply := by
  rw [applyResults, h]

end Apply

/-- Which hooks are set, on one line. -/
def summary (hooks : Hooks) : String :=
  let flags : List (String × Bool) :=
    [("exclude_fields", hooks.excludedFields.isSome), ("string_language", hooks.language.isSome),
      ("query_string", hooks.fullText.isSome), ("post_facet_filter", hooks.fragment.isSome),
      ("request_body", hooks.requestBody.isSome), ("on_failure", hooks.failure),
      ("results", hooks.results.isSome)]
  "SearchHooks \x7b " ++ ", ".intercalate (flags.map fun flag => flag.1 ++ ": " ++ toString flag.2)
    ++ " \x7d"

end Hooks

end Faceted
