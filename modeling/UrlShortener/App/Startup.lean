import UrlShortener.App.Basic
import UrlShortener.Http.Router
import UrlShortener.Redis.Counter
import UrlShortener.Settings.Environment
import UrlShortener.Settings.SocketAddress
import UrlShortener.Visit.Recording

/-
  This file defines how the service starts: its settings are
  loaded, the visit counter is chosen, and the address to
  listen on is read.

  Key definitions include:
    * `StartFault`
    * `StartFault.report`
    * `Startup.counter`
    * `Startup.address`
    * `Startup.site`
    * `Startup.rules`
-/

namespace UrlShortener

------------------------------------------------------------
-- Faults
------------------------------------------------------------

/- Why the service does not start. -/
inductive StartFault where
| settings (fault : LoadFault)
| badAddress
deriving DecidableEq, Repr

namespace StartFault

/- The wording of a fault. -/
def message : StartFault → String
| .settings fault => fault.message
| .badAddress => SocketAddress.faultMessage

/- The wordings of what caused a fault. -/
def causes : StartFault → List String
| .settings fault => fault.causes
| .badAddress => []

/- A fault and its causes, as they are reported. -/
def report (fault : StartFault) : String :=
  let lead :=
    if fault.causes.isEmpty then "" else "\n\nCaused by:"
  "Error: " ++ fault.message ++ lead
    ++ String.join (fault.causes.map ("\n    " ++ ·)) ++ "\n"

end StartFault

------------------------------------------------------------
-- Choices
------------------------------------------------------------

/- Where visits are counted: in memory or on a server. -/
inductive CounterChoice where
| memory
| shared (server : Server)
| unreachable (fault : CounterFault)
deriving DecidableEq, Repr

namespace Startup

/-
  Choose the counter. When no connection to the server can
  be made, visits are counted in memory.
-/
def counter (network : Network) (s : Settings) : CounterChoice :=
  match s.redisUrl with
  | none => .memory
  | some url =>
      match SharedCounter.connect network url with
      | .ok server => .shared server
      | .error fault => .unreachable fault

/- The address to listen on. -/
def address (s : Settings) : Except StartFault SocketAddress :=
  match SocketAddress.read? s.listenAddress with
  | some address => .ok address
  | none => .error .badAddress

/- Load the settings and the address to listen on. -/
def load (env : Environment) :
    Except StartFault (Settings × SocketAddress) := do
  let s ← (Settings.load env).mapError .settings
  let address ← address s
  return (s, address)

/- What the answers of the service depend on. -/
def site (s : Settings) : Site :=
  { policy := .ofSettings s, healthTimeout := s.healthTimeout }

/- How the service records visits. -/
def rules (s : Settings) : RecordingRules :=
  { RecordingRules.usual with
      concurrency := s.concurrency
      limit := s.incrementTimeout }

/- The state of the service at its start. -/
def state (s : Settings) : App :=
  .init .random s.queueCapacity

end Startup

end UrlShortener
