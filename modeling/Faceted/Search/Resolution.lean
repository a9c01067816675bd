import Faceted.Search.Errors
import Faceted.Search.Results

/-!
# Loading the documents of results

The documents of a search live with their tenants. They are loaded tenant by tenant and put
back into the ranked order of the hits. What a resolver returns may change from one call to
the next, as its store does; a resolver that always returns the same is the special case
that is used for one search.

## Main definitions

* `Loader`, `Resolver` — loads the documents of a tenant
* `TenantGroup.rank?` — the rank of a document within its tenant's hits
* `Resolution` — what was asked of a resolver, and what came of it
* `resolveInTurn` — the documents in ranked order, each call having a loader of its own
* `resolve` — the documents in ranked order
-/

namespace Faceted

/-- What is returned for the documents of a tenant, or why they cannot be loaded. -/
abbrev Loader (δ : Type) := TenantId → List DocumentId → Except SearchError (List δ)

/-- Loads the documents of a tenant. -/
structure Resolver (δ : Type) where
  load : Loader δ
  idOf : δ → DocumentId

/-- The rank of a document within its tenant's hits: of several hits on it, that of the last. -/
def TenantGroup.rank? (group : TenantGroup) (id : DocumentId) : Option Nat :=
  (group.hits.reverse.find? fun hit => hit.id == id).map RankedHit.rank

/-- What was asked of a resolver, and what came of it. -/
structure Resolution (δ : Type) where
  /-- The tenants asked for and their documents, in order. -/
  calls : List (TenantId × List DocumentId) := []
  outcome : Except SearchError (List δ)

namespace Resolution

variable {δ : Type}

/-- The documents of a group with their ranks. Documents that were no hits are dropped. -/
def rankedOf (idOf : δ → DocumentId) (group : TenantGroup) (documents : List δ) : List (Nat × δ) :=
  documents.filterMap fun document => (group.rank? (idOf document)).map (·, document)

/-- Loads group by group, skipping groups without hits; the first failure ends it. The calls are
answered in turn, the first one by `turns 0`. -/
def ofGroups (idOf : δ → DocumentId) (turns : Nat → Loader δ) :
    List TenantGroup → Resolution (Nat × δ)
  | [] => { outcome := .ok [] }
  | group :: rest =>
    if group.hits.isEmpty then ofGroups idOf turns rest
    else
      let ids := group.hits.map RankedHit.id
      match turns 0 group.tenant ids with
      | .error error => { calls := [(group.tenant, ids)], outcome := .error error }
      | .ok documents =>
        let others := ofGroups idOf (fun turn => turns (turn + 1)) rest
        { calls := (group.tenant, ids) :: others.calls
          outcome := others.outcome.map (rankedOf idOf group documents ++ ·) }

end Resolution

/-- Documents in the order of their ranks; those of one rank keep their order. -/
def byRank {δ : Type} (ranked : List (Nat × δ)) : List δ :=
  (ranked.mergeSort fun a b => decide (a.1 ≤ b.1)).map Prod.snd

/-- Loads the documents of results and puts them into ranked order. Each call
has a loader of its own. -/
def resolveInTurn {δ : Type} (idOf : δ → DocumentId) (turns : Nat → Loader δ) (results : Results) :
    Resolution δ :=
  let loaded := Resolution.ofGroups idOf turns results.groups
  { calls := loaded.calls, outcome := loaded.outcome.map byRank }

/-- Loads the documents of results and puts them into ranked order. -/
def resolve {δ : Type} (resolver : Resolver δ) (results : Results) : Resolution δ :=
  resolveInTurn resolver.idOf (fun _ => resolver.load) results

end Faceted
