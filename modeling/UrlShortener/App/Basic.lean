import UrlShortener.App.Minter
import UrlShortener.Backend.Counter
import UrlShortener.Backend.Store
import UrlShortener.Service.Dialogue
import UrlShortener.Visit.Queue

/-
  This file defines the state of the running service and the
  calls that requests make on it.

  Key definitions include:
    * `Surroundings`
    * `App`
    * `App.readClock`
    * `App.draw`
    * `App.visit`
    * `App.note`
-/

namespace UrlShortener

------------------------------------------------------------
-- Surroundings
------------------------------------------------------------

/-
  What the service cannot choose: the readings of the clock,
  one after another, and the random bytes of every draw.
-/
structure Surroundings where
  clock : Nat → Timestamp
  entropy : Nat → Nat → UInt8

------------------------------------------------------------
-- State
------------------------------------------------------------

/-
  The state of the service: the link store, the visit
  counter, the source of codes, the queue of visits, the
  totals, and how often the clock was read and a code drawn.
-/
structure App where
  links : StoreBackend
  counter : CounterBackend
  minter : Minter
  queue : VisitQueue
  metrics : Metrics
  readings : Nat
  draws : Nat
deriving DecidableEq, Repr

namespace App

/- The state at the start. -/
def init (minter : Minter) (queueCapacity : Nat) : App :=
  { links := .fresh, counter := .fresh, minter
    queue := .empty queueCapacity, metrics := .zero
    readings := 0, draws := 0 }

end App

------------------------------------------------------------
-- Calls that take no time
------------------------------------------------------------

namespace App

/- Read the clock. -/
def readClock (w : Surroundings) (s : App) : Timestamp × App :=
  (w.clock s.readings, { s with readings := s.readings + 1 })

/- Draw a code. -/
def draw
    (w : Surroundings)
    (length : Nat)
    (s : App) : Except MintFault String × App :=
  let (result, minter) :=
    s.minter.draw (w.entropy s.draws) length
  (result, { s with minter := minter, draws := s.draws + 1 })

/- Queue a visit, and tell whether it found a place. -/
def visit (code : String) (s : App) : Bool × App :=
  match s.queue.offer? code with
  | some queue => (true, { s with queue := queue })
  | none => (false, s)

/- The places left in the queue, unless it is closed. -/
def places (s : App) : Option Nat :=
  if s.queue.closed then none else some s.queue.free

/- Add one to a total. -/
def note (metric : Metric) (s : App) : App :=
  { s with metrics := s.metrics.add metric }

end App

------------------------------------------------------------
-- Calls that may take time
------------------------------------------------------------

namespace App

/- End a save by what came within its limit. -/
def endSave
    (w : Surroundings)
    (came : Option (Option StoreFault))
    (new : NewLink)
    (s : App) : Option (Except StoreFault Link) × App :=
  let (now, s) := s.readClock w
  let (result, links) := s.links.endSave came new now
  (result, { s with links := links })

/- Take the reply to a save. -/
def beginSave (s : App) : Reply StoreFault × App :=
  let (reply, links) := s.links.beginSave
  (reply, { s with links := links })

/- Take the reply to a look-up. -/
def beginFind (s : App) : Reply StoreFault × App :=
  let (reply, links) := s.links.beginFind
  (reply, { s with links := links })

/- Take the reply to the reading of a count. -/
def beginCount (s : App) : Reply CounterFault × App :=
  let (reply, counter) := s.counter.beginGet
  (reply, { s with counter := counter })

/- Take the replies to the pings of both backends. -/
def beginProbe (s : App) :
    (Reply StoreFault × Reply CounterFault) × App :=
  let (ofStore, links) := s.links.beginPing
  let (ofCounter, counter) := s.counter.beginPing
  ((ofStore, ofCounter),
    { s with links := links, counter := counter })

end App

end UrlShortener
