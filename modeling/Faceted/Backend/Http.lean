import Faceted.Backend.Exchange
import Faceted.Decimal.Numeral

/-!
# Exchanges as HTTP messages

A search is posted as an HTTP message over a connection that the server closes after its answer. The
bytes that arrive until then are an exchange: an answer has a status line, fields and a body, and
its fields say whether the body is complete.

## Main definitions

* `Http.Endpoint`, `Endpoint.ofUrl?` — a server and a path on it
* `Http.Endpoint.post` — the message that posts a body
* `Http.Head`, `Http.unchunked` — what stands before a body, and a body in chunks
* `Exchange.ofBytes` — the exchange that the bytes of an answer make up
-/

namespace Faceted

namespace Http

/-! ### Posting -/

/-- A server, the number of the service that it listens with, and a path on it. -/
structure Endpoint where
  host : String
  service : Nat
  path : String
deriving DecidableEq, Repr

namespace Endpoint

/-- What addresses begin with. -/
def scheme : List Char := "http://".toList

/-- Whether a character ends the name of a server. -/
def endsHost (c : Char) : Bool := c == '/' || c == '?' || c == '#'

/-- The number of the service after a colon; 80 if none is named. -/
def service? : List Char → Option Nat
  | [] => some 80
  | _ :: digits => Decimal.Numeral.below? (1 <<< 16) (String.ofList digits)

/-- Reads an address without a user name. -/
def ofUrl? (url : String) : Option Endpoint := do
  let chars := url.toList
  if chars.take scheme.length != scheme then none
  let rest := chars.drop scheme.length
  let server := rest.takeWhile fun c => !endsHost c
  let path := (rest.dropWhile fun c => !endsHost c).takeWhile fun c => c != '#'
  let host := server.takeWhile fun c => c != ':'
  let service ← service? (server.dropWhile fun c => c != ':')
  if host.isEmpty || server.contains '@' then none
  let path := if path.head? == some '/' then path else '/' :: path
  return { host := String.ofList host, service, path := String.ofList path }

/-- The end of a line of a message. -/
def lineEnd : String := "\r\n"

/-- The message that posts a body. -/
def post (endpoint : Endpoint) (body : Json) : String :=
  let text := body.compact
  let lines :=
    ["POST " ++ endpoint.path ++ " HTTP/1.1",
      "host: " ++ endpoint.host ++ ":" ++ toString endpoint.service,
      "content-type: application/json",
      "accept: */*",
      "content-length: " ++ toString text.utf8ByteSize,
      "connection: close"]
  String.join (lines.map fun line => line ++ lineEnd) ++ lineEnd ++ text

end Endpoint

/-! ### Answers -/

/-- The lines before the body, and the body. -/
def split? : List UInt8 → Option (List Char × List UInt8)
  | [] => none
  | 13 :: 10 :: 13 :: 10 :: body => some ([], body)
  | byte :: rest => (split? rest).map fun parts => (Char.ofNat byte.toNat :: parts.1, parts.2)

/-- The lines of a text. -/
def linesOf (chars : List Char) : List (List Char) :=
  (chars.splitOn '\n').map fun line => line.filter fun c => c != '\r'

/-- What stands before the body of an answer: its status, and its fields by their names in small
letters. -/
structure Head where
  status : Nat
  fields : List (String × String)
deriving DecidableEq, Repr

namespace Head

/-- A field, its name in small letters. -/
def field (line : List Char) : String × String :=
  (String.ofList ((line.takeWhile fun c => c != ':').map Char.toLower),
    Text.trim (String.ofList ((line.dropWhile fun c => c != ':').drop 1)))

/-- Reads the lines before a body. -/
def ofChars? (chars : List Char) : Option Head :=
  match linesOf chars with
  | [] => none
  | line :: rest => do
    let words := line.splitOn ' '
    let status ← Decimal.Numeral.below? 1000 (String.ofList (← words[1]?))
    if (words.headD []).take 5 != "HTTP/".toList then none
    return { status, fields := rest.map field }

/-- The value of a field. -/
def field? (head : Head) (name : String) : Option String := head.fields.lookup name

/-- Whether the body comes in chunks. -/
def isChunked (head : Head) : Bool :=
  (head.field? "transfer-encoding").any fun value =>
    value.toList.map Char.toLower == "chunked".toList

end Head

/-- The number that hexadecimal digits at the front spell. -/
def chunkSize (bytes : List UInt8) : Nat :=
  (bytes.takeWhile fun b => (Json.hexValue? b).isSome).foldl
    (fun n b => 16 * n + (Json.hexValue? b).getD 0) 0

/-- The bytes in chunks, and whether the last chunk came. A chunk is a line with its size, so many
bytes, and the end of a line. -/
def unchunked : List UInt8 → List UInt8 × Bool
  | [] => ([], false)
  | byte :: bytes =>
    let size := chunkSize (byte :: bytes)
    if size = 0 then ([], (byte :: bytes).contains 10)
    else
      let chunk := (bytes.dropWhile fun byte => byte != 10).drop 1
      let (others, complete) := unchunked (chunk.drop (size + 2))
      (chunk.take size ++ others, complete)
termination_by bytes => bytes.length
decreasing_by
  have shorter : (bytes.dropWhile fun byte => byte != 10).length ≤ bytes.length :=
    (List.dropWhile_suffix _).length_le
  simp only [List.length_cons, List.length_drop]
  omega

end Http

/-- The exchange that the bytes of an answer make up, up to where the connection ended. -/
def Exchange.ofBytes (bytes : List UInt8) : Exchange :=
  match Http.split? bytes with
  | none => .unanswered "connection closed before message completed"
  | some (chars, body) =>
    match Http.Head.ofChars? chars with
    | none => .unanswered "the answer is no HTTP message"
    | some head =>
      if head.isChunked then
        let (body, complete) := Http.unchunked body
        .answered head.status body complete
      else
        match (head.field? "content-length").bind fun text =>
            Decimal.Numeral.below? (1 <<< 64) text with
        | some length => .answered head.status (body.take length) (length ≤ body.length)
        | none => .answered head.status body true

end Faceted
