import Faceted.Settings.Basic

/-!
# Replies and results

A backend's reply holds hits in ranked order and counts of facet values. Decoding turns it into
results: the hits keep their ranks and are grouped by tenant, and the aggregations that were asked
for become counts with labels.

## Main definitions

* `Reply`, `Hit`, `BucketCount` — what a backend answers
* `Results`, `TenantGroup`, `RankedHit` — what a search returns
* `Results.push` — adds the next hit
* `Reply.decode` — the results that a reply holds
* `Results.toJson` — the results as they are shown
-/

namespace Faceted

/-- How many documents have one value of a field. -/
structure BucketCount where
  label : String
  count : Nat
deriving DecidableEq, Repr

/-- A hit as a backend answers it, with the highlighted fragments of its fields. -/
structure Hit where
  id : DocumentId
  tenant : Option TenantId := none
  highlights : List (String × List String) := []
deriving DecidableEq, Repr

/-- What a backend answers. A total or hits that are missing are told apart from none found. -/
structure Reply where
  total : Option Nat := none
  hits : Option (List Hit) := none
  aggregations : Entries (List BucketCount) := []
deriving DecidableEq, Repr

/-- A fragment of a field that matched. -/
structure Highlight where
  field : String
  text : String
deriving DecidableEq, Repr

/-- A hit and its place among all hits, from zero on. -/
structure RankedHit where
  id : DocumentId
  rank : Nat
  highlights : List Highlight
deriving DecidableEq, Repr

/-- The fragment of a field, if it matched. -/
def RankedHit.highlight? (hit : RankedHit) (field : String) : Option String :=
  (hit.highlights.find? fun highlight => highlight.field == field).map Highlight.text

/-- The hits of one tenant. -/
structure TenantGroup where
  tenant : TenantId
  hits : List RankedHit
deriving DecidableEq, Repr

/-- What a search returns. -/
structure Results where
  total : Nat := 0
  /-- The hits in ranked order. -/
  ids : List DocumentId := []
  /-- The same hits by tenant, the tenant of the best hit first. -/
  groups : List TenantGroup := []
  aggregations : Entries (List BucketCount) := []
deriving DecidableEq, Repr

namespace TenantGroup

/-- Adds a hit to the group of its tenant, which is opened at the end if there is none. -/
def place (groups : List TenantGroup) (tenant : TenantId) (hit : RankedHit) : List TenantGroup :=
  match groups with
  | [] => [⟨tenant, [hit]⟩]
  | group :: rest =>
    if group.tenant = tenant then { group with hits := group.hits ++ [hit] } :: rest
    else group :: place rest tenant hit

end TenantGroup

namespace Results

/-- The hits of a tenant, if it has any. -/
def group? (results : Results) (tenant : TenantId) : Option (List RankedHit) :=
  (results.groups.find? fun group => group.tenant == tenant).map TenantGroup.hits

/-- Adds the next hit. -/
def push (results : Results) (tenant : TenantId) (hit : RankedHit) : Results :=
  { results with
    ids := results.ids ++ [hit.id]
    groups := TenantGroup.place results.groups tenant hit }

end Results

/-- The first fragment of each field that has one. -/
def Hit.firstFragments (hit : Hit) : List Highlight :=
  hit.highlights.filterMap fun entry => entry.2.head?.map fun text => ⟨entry.1, text⟩

/-- Why a reply cannot be decoded. -/
inductive ReplyGap where
  | total
  | hits
deriving DecidableEq, Repr

/-- What is said of a reply that cannot be decoded. -/
def ReplyGap.message : ReplyGap → String
  | .total => "response has no hit total"
  | .hits => "response has no hit list"

namespace Reply

/-- The hits with their ranks, grouped; hits that name no tenant belong to `fallback`. -/
def ranked (fallback : TenantId) (results : Results) (rank : Nat) : List Hit → Results
  | [] => results
  | hit :: rest =>
    ranked fallback
      (results.push (hit.tenant.getD fallback) ⟨hit.id, rank, hit.firstFragments⟩) (rank + 1) rest

/-- The counts of the declared aggregations. One that the reply lacks, or that counts
nothing, is left out. -/
def declaredCounts (reply : Reply) (declared : List String) : Entries (List BucketCount) :=
  declared.foldl
    (fun counts name =>
      match Entries.get? reply.aggregations name with
      | some (bucket :: buckets) => Entries.put counts name (bucket :: buckets)
      | _ => counts)
    []

/-- The results that a reply holds. `declared` names the aggregations to read, `fallback` is the
tenant of hits that name none. -/
def decode (declared : List String) (fallback : TenantId) (reply : Reply) :
    Except ReplyGap Results :=
  match reply.total, reply.hits with
  | none, _ => .error .total
  | some _, none => .error .hits
  | some total, some hits =>
    .ok { ranked fallback {} 0 hits with
      total := total, aggregations := reply.declaredCounts declared }

end Reply

/-! ### Showing results -/

/-- A count as it is shown. -/
def BucketCount.toJson (bucket : BucketCount) : Json :=
  .object [("label", .text bucket.label), ("count", .nat bucket.count)]

/-- A highlight as it is shown. -/
def Highlight.toJson (highlight : Highlight) : Json :=
  .object [("field", .text highlight.field), ("text", .text highlight.text)]

/-- A ranked hit as it is shown. -/
def RankedHit.toJson (hit : RankedHit) : Json :=
  .object
    [("id", .text hit.id.text), ("rank", .nat hit.rank),
      ("highlights", .array (hit.highlights.map Highlight.toJson))]

/-- A tenant's hits as they are shown. -/
def TenantGroup.toJson (group : TenantGroup) : Json :=
  .object [("tenant_id", .text group.tenant.text),
    ("hits", .array (group.hits.map RankedHit.toJson))]

/-- Results as they are shown, aggregations by name. -/
def Results.toJson (results : Results) : Json :=
  .object
    [("total", .nat results.total),
      ("ids", .texts (results.ids.map DocumentId.text)),
      ("grouped_ids", .array (results.groups.map TenantGroup.toJson)),
      ("aggregations", .object ((Entries.byName results.aggregations).map fun entry =>
        (entry.1, .array (entry.2.map BucketCount.toJson))))]

end Faceted
