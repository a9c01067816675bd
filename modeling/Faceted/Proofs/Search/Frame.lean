import Faceted.Proofs.Search.Paging

/-!
# What a request body leaves as it is

A request body is the document of its query with a few members written over it, and no other page,
size or order of results takes anything else from the document. Where a page begins is computed with
64 bits from two numbers of 32, so that it is the exact product.

## Main results

* `requestBody_frame` — the bodies that are sent for the pages of a query
-/

namespace Faceted

open Entries

/-- The product of two numbers of 32 bits, computed with 64 bits, is exact. -/
theorem toNat_mul_toUInt64 (index size : UInt32) :
    (index.toUInt64 * size.toUInt64).toNat = index.toNat * size.toNat := by
  rw [UInt64.toNat_mul, UInt32.toNat_toUInt64, UInt32.toNat_toUInt64]
  have hoffset : Page.offset { index := index.toNat, size := size.toNat } < 2 ^ 64 :=
    Page.offset_lt index.toNat_lt size.toNat_lt
  exact Nat.mod_eq_of_lt hoffset

/-- What is sent for a page of a query, if no hook revises it, is the document of the query with the
page written over it. The place where the page begins does not overflow, and what is sent for
different pages differs in the page alone, and in the order if the query has none. -/
theorem requestBody_frame (service : Service) (hbody : service.hooks.requestBody = none)
    (query : Query) :
    (∀ (index size : UInt32) (byDate : Bool),
      (∃ body, service.requestBody query ⟨index.toNat, size.toNat, byDate⟩ = .object body ∧
        Query.BodyOf query.document service.settings ⟨index.toNat, size.toNat, byDate⟩ body) ∧
      (index.toUInt64 * size.toUInt64).toNat = index.toNat * size.toNat) ∧
    ∀ (page other : Page) (name : String), name ≠ "from" → name ≠ "size" →
      (name = "sort" → "sort" ∈ keys query.document) →
        (service.requestBody query page).member? name =
          (service.requestBody query other).member? name := by
  have hsent (page : Page) := Service.requestBody_of_no_hook hbody query page
  have hbodyOf (page : Page) := query.bodyOf_body service.settings page
  refine ⟨fun index size byDate => ?_, fun page other name hfrom hsize hsort => ?_⟩
  · exact ⟨⟨_, hsent _, hbodyOf _⟩, toNat_mul_toUInt64 index size⟩
  · rw [hsent, hsent]
    exact (hbodyOf page).get?_eq (hbodyOf other) hfrom hsize hsort

/-- A query with a size of its own and an order that is null: the last page of the greatest size
begins at a number that takes 64 bits, the size is overwritten in its place, and the null stays. -/
theorem requestBody_frame_last :
    let service : Service :=
      { backend := fun _ => .ok {}, catalog := ({} : CatalogTable).toCatalog }
    let query : Query := { extensions := [("size", .nat 3), ("sort", .null)] }
    service.hooks.requestBody = none ∧
      ∃ body, service.requestBody query ⟨4294967295, 4294967295, true⟩ = .object body ∧
        get? body "from" = some (.nat 18446744065119617025) ∧
        get? body "size" = some (.nat 4294967295) ∧ get? body "sort" = some .null ∧
        keys body = ["size", "sort", "from", "_source"] := by
  intro service query
  obtain ⟨⟨body, hsent, hbody⟩, -⟩ :=
    (requestBody_frame service rfl query).1 4294967295 4294967295 true
  refine ⟨rfl, body, hsent, hbody.start, hbody.size, hbody.ownSort (by decide), ?_⟩
  exact hbody.names

end Faceted
