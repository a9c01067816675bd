import Faceted.Catalog

/-!
# Settings

What a search needs to know beyond its request: where the search engine is, how the index names its
tenants, and the catalog.

## Main definitions

* `TenantId`, `TenantId.ofJson?` — a tenant, as read from a document
* `DocumentId` — a document of the index
* `TenantSettings`, `SearchSettings`, `BackendSettings`, `Settings` — the sections
-/

namespace Faceted

/-- A document, as the search engine names it. -/
structure DocumentId where
  text : String
deriving DecidableEq, Repr

/-- A tenant, one of the sites that share the index. -/
structure TenantId where
  text : String
deriving DecidableEq, Repr

namespace TenantId

/-- The tenant that a document names. Most indexes keep tenants as numbers; a number and its text
name the same tenant. -/
def ofJson? : Json → Option TenantId
  | .text text => some ⟨text⟩
  | .number number => some ⟨number.text⟩
  | _ => none

/-- The first tenant. -/
def first : TenantId := ⟨"1"⟩

end TenantId

/-- Where tenants live in the index. -/
structure TenantSettings where
  /-- The aggregation that counts hits by tenant. -/
  aggregation : String := "tenant"
  /-- The field with the name of a tenant, which is counted. -/
  nameField : String := "blog_name"
  /-- The field with the tenant of a document. -/
  idField : String := "blog_id"
  /-- The tenant of hits that name none, if the request has none either. -/
  fallback : TenantId := .first

/-- How searches are run. -/
structure SearchSettings where
  pageSize : Nat := 10
  /-- The field by which results are sorted if they are sorted by date. -/
  dateField : String := "post_date"
  tenant : TenantSettings := {}

/-- Where the search engine is. -/
structure BackendSettings where
  url : String
  index : String
  timeoutSeconds : Nat := 10

/-- All settings. -/
structure Settings where
  backend : BackendSettings
  search : SearchSettings := {}
  catalog : CatalogTable := {}

end Faceted
