import Faceted.Query.Basic
import Faceted.Settings.Basic

/-!
# The body of a search request

A query is sent together with the page that is wanted, the one field of a document that is read, and
an order of results, unless the query brings its own.

## Main definitions

* `Page` — the page that is wanted, and in which order
* `Query.body` — the body of the request
-/

namespace Faceted

/-- The page that is wanted, and in which order. -/
structure Page where
  /-- The number of the page, from zero on. -/
  index : Nat := 0
  size : Nat := 10
  /-- Newest results first, instead of best. -/
  byDate : Bool := false
deriving DecidableEq, Repr

namespace Page

/-- How many results come before the page. -/
def offset (page : Page) : Nat :=
  page.index * page.size

/-- The order of results: descending by date, or by score. -/
def sortJson (page : Page) (settings : SearchSettings) : Json :=
  .array [.object [(if page.byDate then settings.dateField else "_score",
    .object [("order", .text "desc")])]]

end Page

/-- The body of the request for a page of a query. -/
def Query.body (query : Query) (settings : SearchSettings) (page : Page) : Entries Json :=
  let document := Entries.put query.document "from" (.nat page.offset)
  let document := Entries.put document "size" (.nat page.size)
  let document := Entries.put document "_source" (.texts [settings.tenant.idField])
  if Entries.has document "sort" then document
  else Entries.put document "sort" (page.sortJson settings)

end Faceted
