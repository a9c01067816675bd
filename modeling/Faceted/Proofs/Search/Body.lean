import Faceted.Proofs.Entries
import Faceted.Search.Body

/-!
# What a request body holds

A request body is the document of its query with a few members written over it: where the page
begins and how long it is, the field that is read, and an order of results. The first three
are written whatever the query has under their names, and the order only if the query has
none, be it null. All other members are those of the document; members of the document stay
where they are, and those that are new come last. Bodies for two pages of one size differ in
nothing but where the page begins.

## Main definitions

* `Query.written` — the members that are written over the document
* `Query.BodyOf` — a body and the document it is made from, member by member

## Main results

* `get?_body_from`, `get?_body_size`, `get?_body_source` — the page and the field that are asked for
* `get?_body_sort` — the order of the query, or else of the page
* `get?_body_of_ne` — all that is not written is the document's
* `body_index` — another page of the same size is another `from` in the same body
* `body_eq_foldl` — the body as the document with the members written over it
* `bodyOf_body` — a body member by member
-/

namespace Faceted.Query

open Entries

variable (query : Query) (settings : SearchSettings) (page : Page)

/-- The body up to the order of results. -/
def pagedDocument : Entries Json :=
  put (put (put query.document "from" (.nat page.offset)) "size" (.nat page.size)) "_source"
    (.texts [settings.tenant.idField])

theorem body_eq_ite :
    query.body settings page =
      if has (query.pagedDocument settings page) "sort" then query.pagedDocument settings page
      else put (query.pagedDocument settings page) "sort" (page.sortJson settings) := rfl

theorem get?_body_of_ne_sort {name : String} (h : name ≠ "sort") :
    get? (query.body settings page) name = get? (query.pagedDocument settings page) name := by
  rw [body_eq_ite]
  split
  · rfl
  · rw [get?_put_of_ne _ _ h]

theorem get?_body_from : get? (query.body settings page) "from" = some (.nat page.offset) := by
  rw [get?_body_of_ne_sort query settings page (by simp)]
  simp [pagedDocument, get?_put_of_ne]

theorem get?_body_size : get? (query.body settings page) "size" = some (.nat page.size) := by
  rw [get?_body_of_ne_sort query settings page (by simp)]
  simp [pagedDocument, get?_put_of_ne]

theorem get?_body_source :
    get? (query.body settings page) "_source" = some (.texts [settings.tenant.idField]) := by
  rw [get?_body_of_ne_sort query settings page (by simp), pagedDocument, get?_put_self]

theorem has_sort_pagedDocument :
    has (query.pagedDocument settings page) "sort" = has query.document "sort" := by
  rw [pagedDocument, has_put_of_ne _ _ (by simp), has_put_of_ne _ _ (by simp),
    has_put_of_ne _ _ (by simp)]

/-- The order of a query counts, and only without one the order of the page. -/
theorem get?_body_sort :
    get? (query.body settings page) "sort" =
      if "sort" ∈ keys query.document then get? query.document "sort"
      else some (page.sortJson settings) := by
  rw [body_eq_ite, has_sort_pagedDocument]
  simp only [has_eq_true_iff]
  split
  · rw [pagedDocument, get?_put_of_ne _ _ (by simp), get?_put_of_ne _ _ (by simp),
      get?_put_of_ne _ _ (by simp)]
  · rw [get?_put_self]

/-- All that is not written over the document is the document's. -/
theorem get?_body_of_ne {name : String} (hfrom : name ≠ "from") (hsize : name ≠ "size")
    (hsource : name ≠ "_source") (hsort : name ≠ "sort") :
    get? (query.body settings page) name = get? query.document name := by
  rw [get?_body_of_ne_sort query settings page hsort, pagedDocument, get?_put_of_ne _ _ hsource,
    get?_put_of_ne _ _ hsize, get?_put_of_ne _ _ hfrom]

/-! ### Other pages -/

theorem from_mem_keys_pagedDocument : "from" ∈ keys (query.pagedDocument settings page) := by
  rw [← has_eq_true_iff]
  simp [pagedDocument, get?_put_of_ne, has]

theorem pagedDocument_index (index : Nat) :
    query.pagedDocument settings { page with index := index } =
      put (query.pagedDocument settings page) "from" (.nat (index * page.size)) := by
  -- `from` is there as soon as it is written, so that a second value for it may be moved to the
  -- front of the later writes, where it replaces the first.
  have hfrom := mem_keys_put_self query.document "from" (.nat page.offset)
  have hsize : "from" ∈ keys (put (put query.document "from" (.nat page.offset)) "size"
      (.nat page.size)) := by
    rw [← has_eq_true_iff] at hfrom ⊢
    rw [has_put_of_ne _ _ (by simp), hfrom]
  calc query.pagedDocument settings { page with index := index }
      = put (put (put query.document "from" (.nat (index * page.size))) "size" (.nat page.size))
          "_source" (.texts [settings.tenant.idField]) := rfl
    _ = put (query.pagedDocument settings page) "from" (.nat (index * page.size)) := by
      rw [pagedDocument, put_comm hsize (by simp), put_comm hfrom (by simp), put_put]

/-- Another page of the same size is asked for with another `from` in the same body. -/
theorem body_index (index : Nat) :
    query.body settings { page with index := index } =
      put (query.body settings page) "from" (.nat (index * page.size)) := by
  rw [body_eq_ite, body_eq_ite, pagedDocument_index, has_put_of_ne _ _ (by simp)]
  split
  · rfl
  · have hsort : page.sortJson settings =
        Page.sortJson { page with index := index } settings := rfl
    rw [put_comm (query.from_mem_keys_pagedDocument settings page) (by simp), hsort]

/-! ### A body and the document it is made from -/

/-- The members that are written over the document of a query, in this order. -/
def written : Entries Json :=
  [("from", .nat page.offset), ("size", .nat page.size),
    ("_source", .texts [settings.tenant.idField])] ++
      if has query.document "sort" then [] else [("sort", page.sortJson settings)]

/-- A body is the document of its query with a few members written over it. -/
theorem body_eq_foldl :
    query.body settings page =
      (query.written settings page).foldl (fun entries pair => put entries pair.1 pair.2)
        query.document := by
  rw [body_eq_ite, has_sort_pagedDocument, written]
  split <;> rfl

/-- The names that are written are four, without the last if the document has it. -/
theorem map_fst_written :
    (query.written settings page).map Prod.fst =
      ["from", "size", "_source"] ++ if "sort" ∈ keys query.document then [] else ["sort"] := by
  rw [written, List.map_append, apply_ite (List.map Prod.fst)]
  simp only [has_eq_true_iff]
  rfl

theorem nodup_map_fst_written : ((query.written settings page).map Prod.fst).Nodup := by
  rw [map_fst_written]
  split <;> decide

theorem keys_body :
    keys (query.body settings page) = keys query.document ++
      ["from", "size", "_source", "sort"].filter fun name => name ∉ keys query.document := by
  rw [body_eq_foldl, keys_foldl_put_of_nodup _ (query.nodup_map_fst_written settings page),
    map_fst_written]
  by_cases hsort : "sort" ∈ keys query.document
  · -- The order is not written, and its name is filtered out.
    have hlast : ["sort"].filter (fun name => name ∉ keys query.document) = [] := by
      simpa using hsort
    have hfour : ["from", "size", "_source", "sort"] = ["from", "size", "_source"] ++ ["sort"] :=
      rfl
    rw [if_pos hsort, hfour, List.append_nil, List.filter_append, hlast, List.append_nil]
  · rw [if_neg hsort]
    rfl

/-- A body for a page is made from a document. -/
structure BodyOf (document : Entries Json) (settings : SearchSettings) (page : Page)
    (body : Entries Json) : Prop where
  start : get? body "from" = some (.nat (page.index * page.size))
  size : get? body "size" = some (.nat page.size)
  source : get? body "_source" = some (.texts [settings.tenant.idField])
  /-- An order that the document brings is kept, whatever it is. -/
  ownSort : "sort" ∈ keys document → get? body "sort" = get? document "sort"
  sort : "sort" ∉ keys document → get? body "sort" = some (.array [.object
    [(if page.byDate then settings.dateField else "_score", .object [("order", .text "desc")])]])
  others (name : String) : name ∉ ["from", "size", "_source", "sort"] →
    get? body name = get? document name
  /-- The names of the document keep their places, and the new ones come last. -/
  names : keys body = keys document ++
    ["from", "size", "_source", "sort"].filter fun name => name ∉ keys document

theorem bodyOf_body : BodyOf query.document settings page (query.body settings page) where
  start := query.get?_body_from settings page
  size := query.get?_body_size settings page
  source := query.get?_body_source settings page
  ownSort hsort := by rw [get?_body_sort, if_pos hsort]
  sort hsort := by
    rw [get?_body_sort, if_neg hsort]
    rfl
  others name hname := by
    simp only [List.mem_cons, List.not_mem_nil, or_false, not_or] at hname
    obtain ⟨hfrom, hsize, hsource, hsort⟩ := hname
    exact query.get?_body_of_ne settings page hfrom hsize hsource hsort
  names := query.keys_body settings page

/-- Two bodies made from one document differ in the page alone, and in the order if they
have it from the page. -/
theorem BodyOf.get?_eq {document body other : Entries Json} {settings : SearchSettings}
    {page otherPage : Page} (h : BodyOf document settings page body)
    (hother : BodyOf document settings otherPage other) {name : String} (hfrom : name ≠ "from")
    (hsize : name ≠ "size") (hsort : name = "sort" → "sort" ∈ keys document) :
    get? body name = get? other name := by
  by_cases hsource : name = "_source"
  · rw [hsource, h.source, hother.source]
  · by_cases hname : name = "sort"
    · subst hname
      rw [h.ownSort (hsort rfl), hother.ownSort (hsort rfl)]
    · have hrest : name ∉ ["from", "size", "_source", "sort"] := by
        simp [hfrom, hsize, hsource, hname]
      rw [h.others name hrest, hother.others name hrest]

end Faceted.Query
