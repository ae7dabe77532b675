import UrlShortener.Http.Response
import UrlShortener.Service.Dialogue

/-
  This file defines the health probe: both backends are
  pinged and the visit queue is looked at, and the answer
  tells how each of the three does.

  Key definitions include:
    * `Check`
    * `Health.storeCheck`
    * `Health.counterCheck`
    * `Health.queueCheck`
    * `Health.response`
    * `Health.probe`
-/

namespace UrlShortener

------------------------------------------------------------
-- Checks
------------------------------------------------------------

/- How a part of the service does. -/
structure Check where
  healthy : Bool
  message : String
deriving DecidableEq, Repr

namespace Check

/- A check as part of an answer. -/
def json (c : Check) : Json :=
  .record
    [("status", .text (if c.healthy then "ok" else "error")),
      ("message", .text c.message)]

end Check

namespace Health

/- A backend that did not answer in time. -/
def silent (limit : Nat) : Check :=
  ⟨false, "No response within " ++ toString limit ++ "ms"⟩

/- How the link store does, by its answer to a ping. -/
def storeCheck (limit : Nat) :
    Option (Except StoreFault Unit) → Check
| none => silent limit
| some (.ok _) => ⟨true, "Responding"⟩
| some (.error fault) => ⟨false, "Store error: " ++ fault.message⟩

/- How the visit counter does. -/
def counterCheck (limit : Nat) :
    Option (Except CounterFault Unit) → Check
| none => silent limit
| some (.ok _) => ⟨true, "Responding"⟩
| some (.error fault) =>
    ⟨false, "Counter error: " ++ fault.message⟩

/- How the visit queue does, by its places left. -/
def queueCheck : Option Nat → Check
| none => ⟨false, "Visit queue is closed"⟩
| some free => ⟨true, "Capacity: " ++ toString free⟩

end Health

------------------------------------------------------------
-- The probe
------------------------------------------------------------

namespace Health

/- The version of the service. -/
def version : String := "0.1.0"

/- The answer to the three checks. -/
def response (store counter queue : Check) : Response :=
  let healthy :=
    store.healthy && counter.healthy && queue.healthy
  .ofJson (if healthy then 200 else 503)
    (.record
      [("status",
          .text (if healthy then "ok" else "unavailable")),
        ("version", .text version),
        ("checks", .record
          [("store", store.json),
            ("counter", counter.json),
            ("visit_queue", queue.json)])])

/- Probe the service within a limit in milliseconds. -/
def probe (limit : Nat) : Dialogue Response :=
  .probe limit fun ofStore ofCounter =>
    .places fun free =>
      .done (response (storeCheck limit ofStore)
        (counterCheck limit ofCounter) (queueCheck free))

end Health

end UrlShortener
