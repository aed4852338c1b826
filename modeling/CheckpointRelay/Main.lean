import CheckpointRelay.CommandLine.Program
import CheckpointRelay.Http.Message
import Std.Async.DNS
import Std.Async.TCP
import Std.Async.Timer

/-!
# Command line

Answers the questions of the program from the machine: variables, files, and exchanges over plain TCP. A node behind
another scheme than `http` cannot be reached.
-/

namespace CheckpointRelay.Machine

open Std.Async

/-- What the system says about an error of a number, which comes negated from the network. -/
def numberedReason (code : UInt32) (details : String) : String :=
  let number := if code < 0x80000000 then code else 0 - code
  s!"{details.capitalize} (os error {number})"

/-- What the system says about an error. -/
def reasonOf : IO.Error → String
  | .inappropriateType _ code details | .permissionDenied _ code details | .resourceExhausted _ code details
  | .noFileOrDirectory _ code details | .noSuchThing _ code details | .invalidArgument _ code details
  | .otherError code details | .resourceVanished code details | .illegalOperation code details
  | .unsupportedOperation code details | .timeExpired code details => numberedReason code details
  | e => toString e

/-- What is under a path. -/
def fileState (path : String) : IO FileState := do
  try return .content (← IO.FS.readBinFile path).toList
  catch
    | .noFileOrDirectory _ _ _ => return .missing
    | e => return .unreadable (reasonOf e)

/-- All that arrives until the connection is closed. -/
partial def receiveAll (client : TCP.Socket.Client) (received : ByteArray) : Async ByteArray := do
  match ← client.recv? 65536 with
  | some octets => receiveAll client (received ++ octets)
  | none => return received

/-- The places at which the host of an address may be reached. -/
def placesOf (url : Url) : Async (List Std.Net.SocketAddress) := do
  let port := url.port.getD 80
  let found ← DNS.getAddrInfo ((url.host.map Host.name).getD "") (toString port)
  return found.toList.map fun
    | .v4 a => .v4 ⟨a, port⟩
    | .v6 a => .v6 ⟨a, port⟩

/-- A connection to the first of some places that accepts one, or why the last does not. -/
def connectTo (reason : String) : List Std.Net.SocketAddress → Async (Except String TCP.Socket.Client)
  | [] => return .error reason
  | a :: rest => do
    let client ← TCP.Socket.Client.mk
    try
      client.connect a
      return .ok client
    catch e => connectTo (reasonOf e) rest

/-- The response to a request, through the first of some places that can be reached. -/
def exchange (r : Http.Request) (places : List Std.Net.SocketAddress) : Async (Except Http.Fault Http.Response) := do
  match ← connectTo "no address" places with
  | .error reason => return .error (.unconnected reason)
  | .ok client =>
    try
      client.send ⟨r.message.toArray⟩
      match Http.Response.ofOctets? (← receiveAll client .empty).toList with
      | some response => return .ok response
      | none => return .error (.broken "connection closed before message completed")
    catch e => return .error (.broken (reasonOf e))

/-- The response to a request, unless its host has no place. -/
def lookUpAndExchange (r : Http.Request) : Async (Except Http.Fault Http.Response) := do
  let places ← try pure (Except.ok (← placesOf r.url)) catch e => pure (Except.error (reasonOf e))
  match places with
  | .error reason => return .error (.unresolved reason)
  | .ok places => exchange r places

instance : Inhabited (Except Http.Fault Http.Response) := ⟨.error (.broken "")⟩

/-- The response to a request, unless its time passes first. -/
def timedExchange (r : Http.Request) : IO (Except Http.Fault Http.Response) :=
  if r.url.scheme ≠ "http" then return .error (.unconnected "invalid URL, scheme is not http")
  else do
    try
      (Async.race (lookUpAndExchange r) do
        sleep ⟨r.timeout⟩
        return .error (.broken "operation timed out")).block
    catch e => return .error (.unconnected (reasonOf e))

/-- The answer of the machine to a question. -/
def answerOf : (q : Outside) → IO q.Answer
  | .environment name => IO.getEnv name
  | .file path => fileState path
  | .exchange r => timedExchange r
  | .pause milliseconds => IO.sleep (UInt32.ofNat (min milliseconds (UInt32.size - 1)))

end CheckpointRelay.Machine

/-- The program with its arguments. -/
def main (arguments : List String) : IO UInt32 := do
  let ending ← (CheckpointRelay.CommandLine.run arguments).run CheckpointRelay.Machine.answerOf
  IO.print ending.output
  IO.eprint ending.errors
  return ending.code.toUInt32
