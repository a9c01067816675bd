import Faceted.Proofs.Json.Overlay
import Faceted.Proofs.Query.Reading
import Faceted.Proofs.Search.Body
import Faceted.Proofs.Search.Decoding
import Faceted.Search.Run

/-!
# The aggregations that are asked for and read

The aggregations of a search are named twice: in the body that is sent, where those of the query
are written by name and those of a fragment laid over them, and in the list of names that the
reply is read for. The two agree, repeated and colliding names included, so that a reply is read
for exactly what was asked.

Aggregations are asked for by name, and of two with one name only the last is. The aggregation
that counts tenants takes its name from the settings and the others take theirs from the
taxonomies of the catalog, so that the two may coincide. Then hits are counted by the taxonomy
alone, and its name is read twice.

## Main results

* `Query.exists_aggs_document` — the aggregations in a document are the names that are read
* `aggregations_requested_iff_read` — the body of a search and the results of a reply name the same
  aggregations
* `compile_legible_iff` — when a search can be read back from what is sent of it
* `Compile.get?_aggregationsJson` — what is asked for under a name
* `compile_aggregations_requested_iff` — when all aggregations of a search are asked for, each once
-/

namespace Faceted

open Entries

namespace Query

/-- The names that a reply is read for: those of the query, then those of its fragment, each counted
at its first occurrence. -/
theorem eraseDups_aggregationNames (query : Query) :
    query.aggregationNames.eraseDups =
      (query.aggregations.map Aggregation.name ++ query.extensionAggregations).eraseDups :=
  eraseDups_foldl_concat _ _

theorem keys_aggregationsJson (query : Query) :
    keys query.aggregationsJson = (query.aggregations.map Aggregation.name).eraseDups := by
  rw [aggregationsJson, keys_ofPairs, List.map_map]
  rfl

theorem get?_sections_aggs {query : Query} (h : query.aggregations ≠ []) :
    get? query.sections "aggs" = some (.object query.aggregationsJson) := by
  have hne : query.aggregations.isEmpty = false := by simpa using h
  unfold sections
  cases query.conditionJson? <;> simp [get?, hne]

/-- If the fragment of a query has objects, or nothing, under `aggs`, then the document lists there
exactly the names that a reply is read for, in the order of their first occurrence. -/
theorem exists_aggs_document {query : Query} (hne : query.aggregations ≠ [])
    (hnodup : (keys query.extensions).Nodup)
    (hobject : ∀ value ∈ get? query.extensions "aggs", ∃ members, value = .object members) :
    ∃ aggs, get? query.document "aggs" = some (.object aggs) ∧
      keys aggs = query.aggregationNames.eraseDups := by
  rw [document, Json.get?_overlay _ hnodup, get?_sections_aggs hne, eraseDups_aggregationNames,
    extensionAggregations]
  -- The fragment has no aggregations, or an object of them that is merged with those of the query.
  cases hextension : get? query.extensions "aggs" with
  | none => exact ⟨query.aggregationsJson, rfl, by simp [keys_aggregationsJson]⟩
  | some value =>
    obtain ⟨members, rfl⟩ := hobject value hextension
    refine ⟨Json.overlay query.aggregationsJson members, by simp [Json.overlayValue], ?_⟩
    exact Json.keys_overlay members query.keys_aggregationsJson

end Query

/-! ### The fragment of a compiled search -/

section Compile

variable (catalog : Catalog) (hooks : Hooks) (tenant : TenantSettings) (text : String)
  (selections : Selections)

theorem compile_aggregations_ne_nil :
    (compile catalog hooks tenant text selections).aggregations ≠ [] :=
  List.cons_ne_nil _ _

theorem nodup_keys_compile_extensions :
    (keys (compile catalog hooks tenant text selections).extensions).Nodup := by
  rw [compile_extensions]
  exact Json.nodup_keys_overlay _ List.nodup_nil

theorem isObject_compile_extensions {name : String}
    (h : ∀ value, (name, value) ∈
        hooks.applyFragment (Compile.draft catalog hooks tenant text selections) →
      ∃ members, value = .object members) :
    ∀ value ∈ get? (compile catalog hooks tenant text selections).extensions name,
      ∃ members, value = .object members := by
  rw [compile_extensions]
  exact Json.isObject_overlay (by simp) h

end Compile

/-- What is asked for is what is read. Unless a hook changes the body, it names under `aggs` exactly
the aggregations that the reply is read for, in the order of their first occurrence, and the results
have counts for those of them for which the reply has counts, with the counts of the reply. -/
theorem aggregations_requested_iff_read (service : Service) (text : String)
    (selections : Selections) (page : Page) (hbody : service.hooks.requestBody = none)
    (hfragment : ∀ value, ("aggs", value) ∈ service.hooks.applyFragment
        (Compile.draft service.catalog service.hooks service.settings.tenant text selections) →
      ∃ members, value = .object members) :
    let query := compile service.catalog service.hooks service.settings.tenant text selections
    ∃ aggs : Entries Json,
      (service.requestBody query page).member? "aggs" = some (.object aggs) ∧
        keys aggs = query.aggregationNames.eraseDups ∧
        ∀ (reply : Reply) (fallback : TenantId), reply.total ≠ none → reply.hits ≠ none →
          ∃ results, reply.decode query.aggregationNames fallback = .ok results ∧
            (keys results.aggregations).Nodup ∧
            ∀ name counts, get? results.aggregations name = some counts ↔
              name ∈ keys aggs ∧ get? reply.aggregations name = some counts ∧ counts ≠ [] := by
  intro query
  obtain ⟨aggs, haggs, hkeys⟩ := Query.exists_aggs_document
    (compile_aggregations_ne_nil service.catalog service.hooks service.settings.tenant
      text selections)
    (nodup_keys_compile_extensions service.catalog service.hooks service.settings.tenant
      text selections)
    (isObject_compile_extensions service.catalog service.hooks service.settings.tenant
      text selections hfragment)
  refine ⟨aggs, ?_, hkeys, fun reply fallback htotal hhits => ?_⟩
  · have hsent : service.requestBody query page = .object (query.body service.settings page) := by
      rw [Service.requestBody, Hooks.applyRequestBody_of_none hbody]
    rw [hsent, Json.member?, Query.get?_body_of_ne _ _ _ (by simp) (by simp) (by simp) (by simp)]
    exact haggs
  · obtain ⟨total, htotal⟩ := Option.ne_none_iff_exists'.1 htotal
    obtain ⟨hits, hhits⟩ := Option.ne_none_iff_exists'.1 hhits
    refine ⟨_, Reply.decode_of_hits _ _ htotal hhits, reply.nodup_keys_declaredCounts _,
      fun name counts => ?_⟩
    rw [reply.get?_declaredCounts, hkeys, List.mem_eraseDups]

/-- A fragment may name an aggregation of the query again and add another: both
sides name each once. -/
theorem aggregations_requested_iff_read_years :
    let service : Service :=
      { backend := fun _ => .error .timedOut
        catalog := ({ taxonomies := ["category"] } : CatalogTable).toCatalog
        hooks :=
          { fragment := some fun _ => [("aggs", .object [("year", .null), ("category", .null)])] } }
    let query := compile service.catalog service.hooks service.settings.tenant "" []
    service.hooks.requestBody = none ∧
      (∀ value, ("aggs", value) ∈ service.hooks.applyFragment
          (Compile.draft service.catalog service.hooks service.settings.tenant "" []) →
        ∃ members, value = .object members) ∧
      ∃ aggs : Entries Json, (service.requestBody query {}).member? "aggs" = some (.object aggs) ∧
        keys aggs = ["tenant", "category", "year"] := by
  intro service query
  have hfragment (value : Json) (h : ("aggs", value) ∈ service.hooks.applyFragment
      (Compile.draft service.catalog service.hooks service.settings.tenant "" [])) :
      ∃ members, value = .object members :=
    ⟨_, congrArg Prod.snd (List.mem_singleton.1 h)⟩
  obtain ⟨aggs, haggs, hkeys, -⟩ := aggregations_requested_iff_read service "" [] {} rfl hfragment
  exact ⟨rfl, hfragment, aggs, haggs, hkeys.trans (by decide)⟩

/-! ### Aggregations of one name -/

/-- What is written of an aggregation tells the field that it counts, and not its name. -/
theorem Aggregation.toJson_inj {one other : Aggregation} :
    one.toJson = other.toJson ↔ one.field = other.field := by
  simp [toJson]

section Compile

variable (catalog : Catalog) (hooks : Hooks) (tenant : TenantSettings) (text : String)
  (selections : Selections)

theorem compile_extensions_of_no_hook (hfragment : hooks.fragment = none) :
    (compile catalog hooks tenant text selections).extensions = [] := by
  rw [compile_extensions, Hooks.applyFragment_of_none hfragment, Json.overlay_nil]

theorem Compile.map_name_aggregations :
    (Compile.aggregations catalog tenant).map Aggregation.name =
      tenant.aggregation :: catalog.taxonomies := by
  rw [Compile.aggregations, List.map_cons, List.map_map]
  exact congrArg _ (List.map_id _)

/-- A search without a fragment is read for its own aggregations. -/
theorem compile_aggregationNames (hfragment : hooks.fragment = none) :
    (compile catalog hooks tenant text selections).aggregationNames =
      tenant.aggregation :: catalog.taxonomies := by
  have extension : (compile catalog hooks tenant text selections).extensionAggregations = [] := by
    rw [Query.extensionAggregations, compile_extensions_of_no_hook _ _ _ _ _ hfragment, get?_nil]
  rw [Query.aggregationNames, extension, List.foldl_nil]
  exact Compile.map_name_aggregations catalog tenant

/-- A search without a fragment can be read back from what is sent of it, if its aggregations have
different names. -/
theorem compile_legible_iff (hfragment : hooks.fragment = none) :
    (compile catalog hooks tenant text selections).Legible ↔
      tenant.aggregation ∉ catalog.taxonomies ∧ catalog.taxonomies.Nodup := by
  have hnames : (compile catalog hooks tenant text selections).aggregations.map Aggregation.name =
      tenant.aggregation :: catalog.taxonomies := Compile.map_name_aggregations catalog tenant
  rw [← List.nodup_cons, ← hnames]
  constructor
  · exact Query.Legible.names
  · intro hdistinct
    exact
      { extensions := compile_extensions_of_no_hook catalog hooks tenant text selections hfragment
        names := hdistinct
        groups := fun _ hgroup => ClauseGroup.uniform_of_mem_gather hgroup }

/-- The aggregations of the taxonomies are written after that of the tenants, and so in its place
where they share its name. -/
theorem Compile.get?_aggregationsJson (name : String) :
    get? (compile catalog hooks tenant text selections).aggregationsJson name =
      if name ∈ catalog.taxonomies then some (Aggregation.toJson ⟨name, taxonomyField name⟩)
      else if name = tenant.aggregation then
        some (Aggregation.toJson ⟨tenant.aggregation, tenant.nameField⟩)
      else none := by
  have own : (compile catalog hooks tenant text selections).aggregations =
      Compile.aggregations catalog tenant := rfl
  rw [Query.aggregationsJson, own, Compile.aggregations, ofPairs, get?_foldl_put, get?_nil,
    Option.or_none, List.map_cons, List.map_map, List.reverse_cons, get?_append, ← List.map_reverse]
  -- Of the writes the last counts: look through the taxonomies from the end,
  -- and then at the tenants.
  have taxonomies := get?_map_name catalog.taxonomies.reverse
    (fun listed => Aggregation.toJson ⟨listed, taxonomyField listed⟩) name
  simp only [List.mem_reverse] at taxonomies
  rw [Function.comp_def, taxonomies]
  split
  next h => rfl
  next h => simp [get?, eq_comm]

end Compile

/-- What becomes of the aggregations of a search without a fragment. A taxonomy is always counted,
over its own field. The tenants are counted over theirs, so that all aggregations of the query are
asked for as they are, unless a taxonomy has the name of their aggregation and another field; then
they are not counted at all. The reply is read for each name once exactly if no taxonomy is repeated
and none has that name. -/
theorem compile_aggregations_requested_iff (catalog : Catalog) (hooks : Hooks)
    (tenant : TenantSettings) (text : String) (selections : Selections)
    (hfragment : hooks.fragment = none) :
    let query := compile catalog hooks tenant text selections
    ∃ aggs : Entries Json, get? query.document "aggs" = some (.object aggs) ∧
      keys aggs = query.aggregationNames.eraseDups ∧
      (∀ name ∈ catalog.taxonomies,
        get? aggs name = some (Aggregation.toJson ⟨name, Compile.taxonomyField name⟩)) ∧
      ((∀ aggregation ∈ query.aggregations, get? aggs aggregation.name = some aggregation.toJson) ↔
        (tenant.aggregation ∈ catalog.taxonomies →
          tenant.nameField = Compile.taxonomyField tenant.aggregation)) ∧
      (query.aggregationNames.Nodup ↔
        tenant.aggregation ∉ catalog.taxonomies ∧ catalog.taxonomies.Nodup) := by
  intro query
  have own : query.aggregations = Compile.aggregations catalog tenant := rfl
  have names : query.aggregationNames = tenant.aggregation :: catalog.taxonomies :=
    compile_aggregationNames catalog hooks tenant text selections hfragment
  have looked := Compile.get?_aggregationsJson catalog hooks tenant text selections
  have taxonomies : ∀ name ∈ catalog.taxonomies, get? query.aggregationsJson name =
      some (Aggregation.toJson ⟨name, Compile.taxonomyField name⟩) := by
    intro name hname
    rw [looked, if_pos hname]
  have tenants : get? query.aggregationsJson tenant.aggregation =
        some (Aggregation.toJson ⟨tenant.aggregation, tenant.nameField⟩) ↔
      (tenant.aggregation ∈ catalog.taxonomies →
        tenant.nameField = Compile.taxonomyField tenant.aggregation) := by
    rw [looked]
    by_cases hcoincide : tenant.aggregation ∈ catalog.taxonomies
    · rw [if_pos hcoincide, Option.some_inj, Aggregation.toJson_inj,
        imp_iff_right hcoincide, eq_comm]
    · simp [hcoincide]
  refine ⟨query.aggregationsJson, ?_, ?_, taxonomies, ?_, ?_⟩
  · have extensions : query.extensions = [] :=
      compile_extensions_of_no_hook catalog hooks tenant text selections hfragment
    rw [Query.document, extensions, Json.overlay_nil]
    exact Query.get?_sections_aggs
      (compile_aggregations_ne_nil catalog hooks tenant text selections)
  · rw [Query.keys_aggregationsJson, names, own, Compile.map_name_aggregations]
  · rw [own, Compile.aggregations, List.forall_mem_cons, tenants, List.forall_mem_map]
    exact and_iff_left taxonomies
  · rw [names, List.nodup_cons]

/-- A category is counted beside the tenants, and the reply is read for both. -/
theorem compile_aggregations_requested_iff_category :
    let catalog := ({ taxonomies := ["category"] } : CatalogTable).toCatalog
    let query := compile catalog {} {} "shoes" []
    ({} : Hooks).fragment = none ∧ query.aggregationNames.Nodup ∧
      ∃ aggs : Entries Json, get? query.document "aggs" = some (.object aggs) ∧
        get? aggs "category" = some (Aggregation.toJson ⟨"category", "category_name"⟩) ∧
        get? aggs "tenant" = some (Aggregation.toJson ⟨"tenant", "blog_name"⟩) := by
  intro catalog query
  obtain ⟨aggs, haggs, -, htaxonomies, hrequested, hnodup⟩ :=
    compile_aggregations_requested_iff catalog {} {} "shoes" [] rfl
  have hapart : "tenant" ∉ catalog.taxonomies := by decide
  refine ⟨rfl, hnodup.2 ⟨hapart, by decide⟩, aggs, haggs, ?_, ?_⟩
  · exact htaxonomies "category" (List.mem_singleton_self _)
  · exact hrequested.2 (fun hmem => absurd hmem hapart) _ List.mem_cons_self

/-- If the aggregation of the tenants has the name of the only taxonomy, then the reply is read for
that name twice, and with another field than that of the taxonomy the tenants are not counted. -/
theorem compile_aggregations_coincide :
    let catalog := ({ taxonomies := ["category"] } : CatalogTable).toCatalog
    let query (tenant : TenantSettings) := compile catalog {} tenant "" []
    catalog.taxonomies.Nodup ∧ ({} : Hooks).fragment = none ∧
      (query { aggregation := "category", nameField := "category_name" }).aggregationNames =
        ["category", "category"] ∧
      ⟨"category", "blog_name"⟩ ∈ (query { aggregation := "category" }).aggregations ∧
      (Json.object (query { aggregation := "category" }).document).at? ["aggs", "category"] =
        some (.object [("terms", .object [("field", .text "category_name")])]) := by
  intro catalog query
  exact ⟨by decide, rfl, by decide, List.mem_cons_self, rfl⟩

end Faceted
