import Faceted.Decimal.Numeral
import Faceted.Settings.Basic
import Faceted.Source

/-!
# Reading settings

The sections of the settings and the catalog are records. All of the catalog and of the search
section has defaults; of the backend, only the time limit does.

## Main definitions

* `NumericRange.read?`, `CatalogTable.read?` — the catalog
* `TenantSettings.read?`, `SearchSettings.read?`, `BackendSettings.read?`,
  `Settings.read?` — settings
-/

namespace Faceted

open Source

variable {σ : Type} [Source σ]

/-- Reads a range of numbers. -/
def NumericRange.read? (s : σ) : Option NumericRange := do
  let field ← record? ["from", "to"] s
  let least ← optional (field "from") number?
  let below ← optional (field "to") number?
  return ⟨least, below⟩

/-- Reads a range with its label. -/
def NumericRange.readNamed? (s : σ) : Option (String × NumericRange) := do
  let field ← record? ["label", "from", "to"] s
  let label ← required (field "label") text?
  let least ← optional (field "from") number?
  let below ← optional (field "to") number?
  return (label, ⟨least, below⟩)

/-- Reads weights by kind and name. -/
def CatalogTable.readWeights? (s : σ) : Option (FieldKind → Entries Float) := do
  let kinds ← tableOf (tableOf double?) s
  let named ← kinds.mapM fun entry => (FieldKind.ofName? entry.1).map (·, entry.2)
  return fun kind => ((named.find? fun entry => entry.1 == kind).map Prod.snd).getD []

/-- Reads a catalog. -/
def CatalogTable.read? (s : σ) : Option CatalogTable := do
  let field ← record?
    ["enabled", "fields", "meta_fields", "taxonomies", "custom_facets", "scores", "numeric",
      "not_analyzed", "fuzzy", "ranges", "post_type_relevance"] s
  let enabled ← defaulted (field "enabled") true bool?
  let fields ← defaulted (field "fields") [] texts?
  let metaFields ← defaulted (field "meta_fields") [] texts?
  let taxonomies ← defaulted (field "taxonomies") [] texts?
  let customFacets ← defaulted (field "custom_facets") [] texts?
  let weights ← defaulted (field "scores") (fun _ => []) readWeights?
  let numeric ← defaulted (field "numeric") [] texts?
  let notAnalyzed ← defaulted (field "not_analyzed") [] texts?
  let fuzziness ← optional (field "fuzzy") json?
  let ranges ← defaulted (field "ranges") [] (tableOf (listOf NumericRange.readNamed?))
  let relevance ← defaulted (field "post_type_relevance") [] (listOf (natural? (1 <<< 32)))
  return { enabled, fields, metaFields, taxonomies, customFacets, weights, numeric, notAnalyzed,
           fuzziness, ranges, relevance }

/-- Reads a number that is kept as a string. -/
def writtenNatural? (bound : Nat) (s : σ) : Option Nat :=
  (text? s).bind (Decimal.Numeral.below? bound)

/-- Reads where tenants live. -/
def TenantSettings.read? (s : σ) : Option TenantSettings := do
  let field ← record? ["aggregation", "name_field", "id_field", "default"] s
  let default : TenantSettings := {}
  let aggregation ← defaulted (field "aggregation") default.aggregation text?
  let nameField ← defaulted (field "name_field") default.nameField text?
  let idField ← defaulted (field "id_field") default.idField text?
  let fallback ← defaulted (field "default") default.fallback fun s => (text? s).map TenantId.mk
  return { aggregation, nameField, idField, fallback }

/-- Reads how searches are run. -/
def SearchSettings.read? (s : σ) : Option SearchSettings := do
  let field ← record? ["default_page_size", "date_field", "tenant"] s
  let default : SearchSettings := {}
  let pageSize ← defaulted (field "default_page_size") default.pageSize (writtenNatural? (1 <<< 32))
  let dateField ← defaulted (field "date_field") default.dateField text?
  let tenant ← defaulted (field "tenant") default.tenant TenantSettings.read?
  return { pageSize, dateField, tenant }

/-- Reads where the search engine is. -/
def BackendSettings.read? (s : σ) : Option BackendSettings := do
  let field ← record? ["url", "index", "timeout_secs"] s
  let url ← required (field "url") text?
  let index ← required (field "index") text?
  let timeoutSeconds ← defaulted (field "timeout_secs") 10 (writtenNatural? (1 <<< 64))
  return { url, index, timeoutSeconds }

/-- Reads all settings. -/
def Settings.read? (s : σ) : Option Settings := do
  let field ← record? ["backend", "search", "catalog"] s
  let backend ← required (field "backend") BackendSettings.read?
  let search ← defaulted (field "search") {} SearchSettings.read?
  let catalog ← defaulted (field "catalog") {} CatalogTable.read?
  return { backend, search, catalog }

end Faceted
