import Faceted.Json.Basic
import Faceted.Selection

/-!
# Facet clauses

A clause asks that one field match one value. The values of a selection become clauses: those that
all must hold are required one by one, and those of a disjunctive selection are gathered into
groups, one for each kind of clause.

## Main definitions

* `Clause`, `ClauseGroup` — a predicate on one field, and several of one kind
* `FacetClauses` — the clauses that selections give rise to
* `Pass` — a name on which selections are turned into clauses
* `Pass.clauses` — the clauses of one pass
* `ClauseGroup.gather` — the groups of a list of clauses
-/

namespace Faceted

/-- The predicate that a clause applies. -/
inductive ClauseKind where
  | term
  | range
deriving DecidableEq, Repr

/-- What queries call the predicate. -/
def ClauseKind.name : ClauseKind → String
  | .term => "term"
  | .range => "range"

/-- A predicate on one field. -/
structure Clause where
  kind : ClauseKind
  field : String
  value : Json

/-- A clause in a query, such as a term on a brand. -/
def Clause.toJson (clause : Clause) : Json :=
  .object [(clause.kind.name, .object [(clause.field, clause.value)])]

/-- Clauses of one kind, taken from disjunctive selections. -/
structure ClauseGroup where
  kind : ClauseKind
  clauses : List Clause

namespace ClauseGroup

/-- How many members must match: all of them. -/
def threshold (group : ClauseGroup) : Nat :=
  group.clauses.length

/-- A group in a query. -/
def toJson (group : ClauseGroup) : Json :=
  .object [("bool", .object
    [("should", .array (group.clauses.map Clause.toJson)),
      ("minimum_should_match", .nat group.threshold)])]

/-- Adds a clause to the group of its kind, which is opened at the end if there is none. -/
def place (groups : List ClauseGroup) (clause : Clause) : List ClauseGroup :=
  match groups with
  | [] => [⟨clause.kind, [clause]⟩]
  | group :: rest =>
    if group.kind = clause.kind then { group with clauses := group.clauses ++ [clause] } :: rest
    else group :: place rest clause

/-- The groups of a list of clauses: one for each kind, in the order in which
the kinds first appear. -/
def gather (clauses : List Clause) : List ClauseGroup :=
  clauses.foldl place []

end ClauseGroup

/-- The clauses that selections give rise to. -/
structure FacetClauses where
  /-- Clauses that must match. -/
  required : List Clause
  /-- Clauses of disjunctive selections. -/
  alternatives : List Clause

namespace FacetClauses

/-- No clauses. -/
def none : FacetClauses := ⟨[], []⟩

/-- The clauses of both. -/
def append (a b : FacetClauses) : FacetClauses :=
  ⟨a.required ++ b.required, a.alternatives ++ b.alternatives⟩

instance : Append FacetClauses := ⟨append⟩

/-- The clauses of all. -/
def concat (parts : List FacetClauses) : FacetClauses :=
  parts.foldl append none

@[simp] theorem required_append (a b : FacetClauses) :
    (a ++ b).required = a.required ++ b.required := rfl

@[simp] theorem alternatives_append (a b : FacetClauses) :
    (a ++ b).alternatives = a.alternatives ++ b.alternatives := rfl

end FacetClauses

/-- A name on which selections are turned into clauses. -/
structure Pass where
  name : String
  kind : ClauseKind
  /-- What selected labels stand for. -/
  predicates : Entries Json := []

namespace Pass

/-- The value a clause asks for: what the label stands for, or the label itself. -/
def valueOf (pass : Pass) (label : String) : Json :=
  (Entries.get? pass.predicates label).getD (.text label)

/-- The clause for one selected label. -/
def clause (pass : Pass) (label : String) : Clause :=
  ⟨pass.kind, pass.name, pass.valueOf label⟩

/-- The clauses for what is selected under the name of the pass. -/
def clauses (pass : Pass) (selections : Selections) : FacetClauses :=
  match Entries.get? selections pass.name with
  | none => .none
  | some (.exact label) => ⟨[pass.clause label], []⟩
  | some (.allOf labels) => ⟨labels.map pass.clause, []⟩
  | some (.anyOf labels) => ⟨[], labels.map pass.clause⟩

end Pass

end Faceted
