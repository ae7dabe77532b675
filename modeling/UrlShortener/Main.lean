import Std.Async.Signal
import Std.Http.Server
import Std.Sync.Mutex
import Std.Time
import UrlShortener.App.Run
import UrlShortener.App.Settle
import UrlShortener.App.Startup
import UrlShortener.Json.Printer
import UrlShortener.Settings.Summary

/-
  This file defines the program: it loads its settings from
  the environment, logs them, and answers HTTP requests on
  its address until it is interrupted. The answers are those
  of the service; here they are only carried over.

  Key definitions include:
    * `Program.environment`
    * `Program.Running`
    * `Program.answer`
    * `Program.serve`
    * `main`
-/

namespace UrlShortener

------------------------------------------------------------
-- Surroundings
------------------------------------------------------------

namespace Program

/- The variables that settings are loaded from. -/
def names : List String :=
  Settings.usual.entries.map Prod.fst
    ++ ["REDIS_URL", "REDIS_HOST", "REDIS_PORT",
      "REDIS_PASSWORD", "REDIS_DB"]

/- The environment of the program. -/
def environment : IO Environment := do
  let values ← names.mapM fun name => do
    return (name, ← IO.getEnv name)
  return fun name =>
    (values.find? fun v => v.1 == name).bind fun v =>
      v.2.map Utf8.bytes

/- The time. -/
def now : IO Timestamp := do
  let t ← Std.Time.Timestamp.now
  let nanos : Int := t.toNanosecondsSinceUnixEpoch.val
  return .ofEpoch (nanos / 1000000000)
    (nanos % 1000000000).toNat

/- The surroundings of a request, with fresh random bytes. -/
def surroundings (policy : Policy) : IO Surroundings := do
  let time ← now
  let length := policy.codeLength
  let bytes ←
    IO.getRandomBytes (.ofNat (policy.maxAttempts * length))
  return {
    clock := fun _ => time
    entropy := fun draw i =>
      let first := draw % policy.maxAttempts * length
      bytes.data.getD (first + i) 0 }

/- Servers cannot be connected to. -/
def network : Network := fun _ =>
  .error "no connection can be made"

end Program

------------------------------------------------------------
-- Requests
------------------------------------------------------------

namespace Program

/- The running service: how it answers, and its state. -/
structure Running where
  site : Site
  rules : RecordingRules
  state : Std.Mutex App

/- The rest before a retry: half of the longest. -/
def rest (_ retry : Nat) : Nat :=
  RecordingRules.restBound retry / 2

/- Answer a request and record the visits it queued. -/
def answer (r : Running) (request : Request) : IO Response := do
  let w ← surroundings r.site.policy
  r.state.atomically do
    let (response, s) :=
      (r.site.serveTrimmed request).run w (← get)
    set (s.settle r.rules rest).2
    return response

/- Read a body to its end. -/
partial def readBody
    (stream : Std.Http.Body.Stream)
    (body : ByteArray) : Std.Async.Async ByteArray := do
  match ← stream.recv with
  | none => return body
  | some chunk => readBody stream (body ++ chunk.data)

/- A request as the service reads it. -/
def received
    (request : Std.Http.Request Std.Http.Body.Stream) :
    Std.Async.Async Request := do
  let body ← readBody request.body .empty
  return {
    method := toString request.line.method
    target := toString request.line.uri
    headers :=
      request.line.headers.toList.map fun h =>
        (h.1.value, h.2.value)
    body := body.data.toList }

/- Add a header, if there is one. -/
def withHeader
    (name : String)
    (value : Option String)
    (b : Std.Http.Response.Builder) :
    Std.Http.Response.Builder :=
  match Std.Http.Header.Name.ofString? name,
      value.bind Std.Http.Header.Value.ofString? with
  | some n, some v => b.header n v
  | _, _ => b

/- A response as it is sent. -/
def sent (r : Response) :
    Std.Async.Async (Std.Http.Response Std.Http.Body.Full) :=
  let status :=
    (Std.Http.Status.ofCode none r.status.toUInt16).getD .ok
  let b := Std.Http.Response.new.status status
  let b := withHeader "location" r.location b
  let b := withHeader "content-type" r.contentType b
  let b := withHeader "allow" r.allow b
  let body :=
    match r.body with
    | some json => json.print
    | none => ""
  b.fromBytes body.toUTF8

instance : Std.Http.Server.Handler Running where
  ResponseBody := Std.Http.Body.Full
  responseBodyInstance := inferInstance
  onRequest := fun running request => do
    let r ← received request
    let response ← answer running r
    sent response

end Program

------------------------------------------------------------
-- The program
------------------------------------------------------------

namespace Program

/- An address as the network takes it. -/
def socket : SocketAddress → Std.Net.SocketAddress
| .short parts port =>
    let part := fun i => (parts.getD i 0).toUInt8
    .v4
      { addr := .ofParts (part 0) (part 1) (part 2) (part 3)
        port := port.toUInt16 }
| .long groups _ port =>
    .v6
      { addr := ⟨.ofFn fun i => (groups.getD i 0).toUInt16⟩
        port := port.toUInt16 }

/- Log where visits are counted. -/
def logCounter (s : Settings) : IO Unit :=
  match Startup.counter network s with
  | .memory => IO.println "Visit counter: in-memory"
  | .shared _ => IO.println "Visit counter: Redis"
  | .unreachable fault =>
      IO.println
        ("Failed to connect to Redis: " ++ fault.message
          ++ ". Counting visits in memory.")

/- Answer requests until the program is interrupted. -/
def serve (s : Settings) (address : SocketAddress) : IO Unit := do
  let state ← Std.Mutex.new (Startup.state s)
  let running : Running :=
    { site := Startup.site s, rules := Startup.rules s, state }
  let interrupted ← Std.Async.Signal.Waiter.mk .sigint false
  Std.Async.Async.block do
    let server ← Std.Http.Server.serve (socket address) running
    IO.println ("Listening on http://" ++ s.listenAddress)
    let signal ← interrupted.wait
    let _ ← Std.Async.Async.ofAsyncTask signal
    server.shutdownAndWait
  IO.println "Shutdown complete"

/- Report why the program does not start. -/
def refuse (fault : StartFault) : IO UInt32 := do
  (← IO.getStderr).putStr fault.report
  return 1

end Program

end UrlShortener

open UrlShortener in
/- Start the service. -/
def main : IO UInt32 := do
  match Settings.load (← Program.environment) with
  | .error fault => Program.refuse (.settings fault)
  | .ok s =>
      for line in s.summary do IO.println line
      Program.logCounter s
      match Startup.address s with
      | .error fault => Program.refuse fault
      | .ok address =>
          Program.serve s address
          return 0
