import UrlShortener.Redis.Address
import UrlShortener.Redis.Server
import UrlShortener.Visit.Fault

/-
  This file defines the visit counter that keeps its counts
  on a counting server, one key for each code.

  Key definitions include:
    * `SharedCounter.key`
    * `SharedCounter.increment`
    * `SharedCounter.get`
    * `SharedCounter.connect`
-/

namespace UrlShortener

------------------------------------------------------------
-- Calls
------------------------------------------------------------

namespace SharedCounter

/- The key of a code. -/
def key (code : String) : String :=
  "visits:" ++ code

/- Count a visit. -/
def increment
    (code : String)
    (s : Server) : Except CounterFault Unit × Server :=
  match s.incrementBy (key code) 1 with
  | (.ok _, s) => (.ok (), s)
  | (.error fault, s) => (.error (.backend fault.message), s)

/- A text that is no count. -/
def unreadable (text : String) : CounterFault :=
  .backend
    ("Could not convert from string: '" ++ text ++ "'")

/- The number of visits of a code. -/
def get
    (code : String)
    (s : Server) : Except CounterFault Nat :=
  match s.get? (key code) with
  | none => .ok 0
  | some text =>
      match Unsigned.read text.toList with
      | .ok n => .ok n
      | .error _ => .error (unreadable text)

/- A server that is connected to answers. -/
def ping (_ : Server) : Except CounterFault Unit := .ok ()

end SharedCounter

------------------------------------------------------------
-- Connections
------------------------------------------------------------

/- The servers that can be reached, or why one cannot. -/
abbrev Network := ServerAddress → Except String Server

namespace SharedCounter

/- Connect to the server of a URL. -/
def connect
    (network : Network)
    (url : String) : Except CounterFault Server :=
  match ServerAddress.ofText url with
  | .error fault =>
      .error (.backend
        ("Failed to create Redis client: " ++ fault.message))
  | .ok address =>
      match network address with
      | .ok server => .ok server
      | .error reason =>
          .error (.backend
            ("Failed to connect to Redis: " ++ reason))

end SharedCounter

end UrlShortener
