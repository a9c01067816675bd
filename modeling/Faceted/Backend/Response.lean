import Faceted.Json.Printer
import Faceted.Search.Results
import Faceted.Source

/-!
# Responses of the search engine

The search engine answers JSON. Every section of a response is optional, so that an
incomplete one can still be looked at; what a search needs of it is its reply. A refused
query is answered with an error.

## Main definitions

* `Response`, `HitsSection`, `ResponseHit`, `Total` — a response
* `Response.read?` — reads one
* `Terms` — an aggregation by terms, and its buckets
* `Reply.ofResponse` — what a search needs of a response
* `Refusal` — the answer to a refused query
-/

namespace Faceted

open Source

/-! ### Totals -/

/-- How many documents match. Older engines answer a number, newer ones say how exact it is. -/
inductive Total where
  | count (value : Nat)
  | detailed (value : Nat) (relation : Option String)
deriving DecidableEq, Repr

namespace Total

/-- The number itself. -/
def value : Total → Nat
  | .count value => value
  | .detailed value _ => value

/-- Reads a total: a number below `2 ^ 64`, or an object with one as its `value`. -/
def ofJson? : Json → Option Total
  | .number n => (n.natBelow? (1 <<< 64)).map .count
  | .object members => do
    let value ← required (Entries.get? members "value") (natural? (1 <<< 64))
    let relation ← optional (Entries.get? members "relation") text?
    return .detailed value relation
  | _ => none

/-- Reads a total in a text; its members must not be repeated. -/
def ofWritten? (written : Written) : Option Total :=
  if 1 < written.node.occurrences "value" || 1 < written.node.occurrences "relation" then none
  else (json? written).bind ofJson?

end Total

/-! ### Hits -/

/-- A hit as the engine answers it. -/
structure ResponseHit where
  id : String
  index : Option String
  score : Option Float
  source : Option (Entries Json)
  highlight : Option (Entries Json)

/-- Reads an object into its members. -/
def membersOf? (written : Written) : Option (Entries Json) :=
  tableOf json? written

/-- Reads a hit. -/
def ResponseHit.read? (written : Written) : Option ResponseHit := do
  let field ← record? ["_id", "_index", "_score", "_source", "highlight"] written
  let id ← required (field "_id") text?
  let index ← optional (field "_index") text?
  let score ← optional (field "_score") double?
  let source ← optional (field "_source") membersOf?
  let highlight ← optional (field "highlight") membersOf?
  return { id, index, score, source, highlight }

/-- What the document of a hit holds in a field. -/
def ResponseHit.sourceValue? (hit : ResponseHit) (field : String) : Option Json :=
  hit.source.bind fun source => Entries.get? source field

/-- The section of a response with its hits. -/
structure HitsSection where
  total : Option Total
  hits : Option (List ResponseHit)

/-- Reads the section with the hits. -/
def HitsSection.read? (written : Written) : Option HitsSection := do
  let field ← record? ["total", "hits"] written
  let total ← optional (field "total") Total.ofWritten?
  let hits ← optional (field "hits") (listOf ResponseHit.read?)
  return { total, hits }

/-! ### Responses -/

/-- The answer to a search. -/
structure Response where
  took : Option Nat
  timedOut : Bool
  hits : Option HitsSection
  aggregations : Option (Entries Json)

namespace Response

/-- Reads a response. -/
def read? (written : Written) : Option Response := do
  let field ← record? ["took", "timed_out", "hits", "aggregations"] written
  let took ← optional (field "took") (natural? (1 <<< 64))
  let timedOut ← defaulted (field "timed_out") false bool?
  let hits ← optional (field "hits") HitsSection.read?
  let aggregations ← optional (field "aggregations") membersOf?
  return { took, timedOut, hits, aggregations }

/-- Reads a response from the bytes of a body. -/
def ofBytes? (bytes : List UInt8) : Option Response :=
  (Written.ofBytes? bytes).bind read?

end Response

/-! ### Aggregations by terms -/

/-- The documents with one value of a field. -/
structure Bucket where
  key : Json
  keyText : Option String
  count : Nat

namespace Bucket

/-- Reads a bucket. Its key may be any value, but must be there. -/
def read? {σ : Type} [Source σ] (s : σ) : Option Bucket := do
  let field ← record? ["key", "key_as_string", "doc_count"] s
  let key ← required (field "key") json?
  let keyText ← optional (field "key_as_string") text?
  let count ← required (field "doc_count") (natural? (1 <<< 64))
  return { key, keyText, count }

/-- What a bucket is called: as the engine puts it, or else its key, as it is if it is a string. -/
def label (bucket : Bucket) : String :=
  match bucket.keyText with
  | some text => text
  | none =>
    match bucket.key with
    | .text text => text
    | key => key.compact

/-- A bucket as a count with a label. -/
def toCount (bucket : Bucket) : BucketCount :=
  ⟨bucket.label, bucket.count⟩

end Bucket

/-- Reads an aggregation by terms into its buckets; without the member `buckets` it has none. -/
def Terms.read? {σ : Type} [Source σ] (s : σ) : Option (List Bucket) := do
  let field ← record? ["buckets"] s
  defaulted (field "buckets") [] (listOf Bucket.read?)

/-- The buckets of an aggregation, if the response has it and it is one by terms. -/
def Response.terms? (response : Response) (name : String) : Option (List Bucket) :=
  response.aggregations.bind fun aggregations => (Entries.get? aggregations name).bind Terms.read?

/-! ### What a search needs -/

/-- The fragments of a highlighted field: the strings of an array, or a string by itself. -/
def fragmentsOf : Json → List String
  | .array items => items.filterMap Json.text?
  | .text text => [text]
  | _ => []

/-- A hit as a search needs it; its tenant is read from a field of its document. -/
def Hit.ofResponse (tenantField : String) (hit : ResponseHit) : Hit :=
  { id := ⟨hit.id⟩
    tenant := (hit.sourceValue? tenantField).bind TenantId.ofJson?
    highlights := (hit.highlight.getD []).map fun field => (field.1, fragmentsOf field.2) }

/-- What a search needs of a response. Aggregations that are not by terms are left out. -/
def Reply.ofResponse (tenantField : String) (response : Response) : Reply :=
  { total := response.hits.bind fun section_ => section_.total.map Total.value
    hits := response.hits.bind fun section_ => section_.hits.map fun hits =>
      hits.map (Hit.ofResponse tenantField)
    aggregations := (response.aggregations.getD []).filterMap fun entry =>
      (response.terms? entry.1).map fun buckets => (entry.1, buckets.map Bucket.toCount) }

/-! ### Refused queries -/

/-- Why a query was refused: a kind of error, perhaps with a reason, or just a message. -/
inductive RefusalReason where
  | detailed (kind : String) (reason : Option String)
  | message (text : String)
deriving DecidableEq, Repr

namespace RefusalReason

/-- The reason on one line. -/
def text : RefusalReason → String
  | .detailed kind (some reason) => kind ++ ": " ++ reason
  | .detailed kind none => kind
  | .message text => text

/-- Reads a reason: an object with a `type`, or a string. -/
def ofJson? : Json → Option RefusalReason
  | .text text => some (.message text)
  | .object members => do
    let kind ← required (Entries.get? members "type") text?
    let reason ← optional (Entries.get? members "reason") text?
    return .detailed kind reason
  | _ => none

/-- Reads a reason in a text; its members must not be repeated. -/
def ofWritten? (written : Written) : Option RefusalReason :=
  if 1 < written.node.occurrences "type" || 1 < written.node.occurrences "reason" then none
  else (json? written).bind ofJson?

end RefusalReason

/-- The answer to a refused query. -/
structure Refusal where
  error : RefusalReason
  status : Option Nat

/-- Reads the answer to a refused query. -/
def Refusal.read? (written : Written) : Option Refusal := do
  let field ← record? ["error", "status"] written
  let error ← required (field "error") RefusalReason.ofWritten?
  let status ← optional (field "status") (natural? (1 <<< 16))
  return { error, status }

end Faceted
