import Faceted.Backend.Http
import Faceted.CommandLine
import Std.Async.DNS
import Std.Async.TCP
import Std.Async.Timer
import Std.Internal.UV.System

/-!
# The program

Reads files and environment variables, posts a search, and writes how the run ends. All else is
decided by `CommandLine` and `Exchange`.
-/

open Faceted
open Std.Async

namespace Faceted.Program

/-- The text of a file, if it can be read. -/
def readFile? (directory name : String) : IO (Option String) := do
  try
    return some (← IO.FS.readFile (directory ++ "/" ++ name))
  catch _ => return none

/-- All that arrives over a connection until it ends. -/
partial def receiveAll (client : TCP.Socket.Client) (received : ByteArray) : Async ByteArray := do
  match ← client.recv? 65536 with
  | some bytes => receiveAll client (received ++ bytes)
  | none => return received

/-- Posts a body, and waits for the connection to end. -/
def exchange (endpoint : Http.Endpoint) (body : Json) : Async Exchange := do
  try
    let addresses ← DNS.getAddrInfo endpoint.host (toString endpoint.service)
    let service := UInt16.ofNat endpoint.service
    match addresses[0]? with
    | none => return .unanswered "no address"
    | some address =>
      let client ← TCP.Socket.Client.mk
      match address with
      | .v4 address => client.connect (.v4 ⟨address, service⟩)
      | .v6 address => client.connect (.v6 ⟨address, service⟩)
      client.send (endpoint.post body).toUTF8
      return Exchange.ofBytes (← receiveAll client .empty).toList
  catch error => return .unanswered (toString error)

/-- Lets the time for an exchange pass. -/
def timeOut (seconds : Nat) : Async Exchange := do
  sleep (Std.Time.Millisecond.Offset.ofNat (1000 * seconds))
  return .timedOut

instance : Inhabited Exchange := ⟨.timedOut⟩

/-- What comes of posting the search of a session, within the time that is set for it. -/
def post (session : CommandLine.Session) (body : Json) : IO Exchange := do
  match Http.Endpoint.ofUrl? session.address with
  | none => return .unanswered "the address is malformed"
  | some endpoint =>
    (Async.race (timeOut session.settings.backend.timeoutSeconds) (exchange endpoint body)).block

/-- Writes what a run ends with, and gives its exit code. -/
def conclude (ending : CommandLine.Ending) : IO UInt32 := do
  for line in ending.log do
    IO.eprintln line
  IO.print ending.output
  if let some complaint := ending.complaint? then
    IO.eprintln complaint
  return ending.exitCode.toUInt32

/-- Runs the program. -/
def run (arguments : List String) : IO UInt32 := do
  let directory :=
    match CommandLine.Arguments.read arguments with
    | .ok read => read.directory
    | .error _ => CommandLine.Arguments.defaultDirectory
  let files ← Config.fileNames.mapM fun name => return (name, ← readFile? directory name)
  let exported ← Std.Internal.UV.System.osEnviron
  let file? (_ name : String) : Option String := (files.lookup name).join
  match CommandLine.Session.prepare file? exported.toList arguments with
  | .error ending => conclude ending
  | .ok session =>
    let delivered ←
      match session.body? with
      | some body => post session body
      | none => pure .timedOut
    conclude (session.run fun _ => delivered).value

end Faceted.Program

/-- Runs one search. -/
def main (arguments : List String) : IO UInt32 :=
  Program.run arguments
