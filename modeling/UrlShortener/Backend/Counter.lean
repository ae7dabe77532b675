import UrlShortener.Backend.Reply
import UrlShortener.Visit.Fault
import UrlShortener.Visit.Tally

/-
  This file defines the visit counter as the service meets
  it: its calls take time and may fail before they reach the
  tally. A call that fails or is given up leaves the tally
  as it was.

  Key definitions include:
    * `CounterBackend`
    * `CounterBackend.beginIncrement`
    * `CounterBackend.endGet`
    * `CounterBackend.endPing`
-/

namespace UrlShortener

------------------------------------------------------------
-- The backend
------------------------------------------------------------

/- The tally and the replies to the calls to come. -/
structure CounterBackend where
  tally : Tally
  increments : List (Reply CounterFault)
  gets : List (Reply CounterFault)
  pings : List (Reply CounterFault)
deriving DecidableEq, Repr

namespace CounterBackend

/- A counter without visits that answers at once. -/
def fresh : CounterBackend :=
  { tally := .empty, increments := [], gets := [], pings := [] }

end CounterBackend

------------------------------------------------------------
-- Calls that begin
------------------------------------------------------------

namespace CounterBackend

/- Begin to count a visit: take the reply of the call. -/
def beginIncrement (b : CounterBackend) :
    Reply CounterFault × CounterBackend :=
  let (reply, rest) := Reply.next b.increments
  (reply, { b with increments := rest })

/- Begin to read a count. -/
def beginGet (b : CounterBackend) :
    Reply CounterFault × CounterBackend :=
  let (reply, rest) := Reply.next b.gets
  (reply, { b with gets := rest })

/- Begin to ping. -/
def beginPing (b : CounterBackend) :
    Reply CounterFault × CounterBackend :=
  let (reply, rest) := Reply.next b.pings
  (reply, { b with pings := rest })

end CounterBackend

------------------------------------------------------------
-- Calls that end
------------------------------------------------------------

namespace CounterBackend

/- Count a visit. -/
def increment (b : CounterBackend) (code : String) :
    CounterBackend :=
  { b with tally := b.tally.increment code }

/-
  End the reading of a count by what came within its limit.
-/
def endGet
    (b : CounterBackend)
    (came : Option (Option CounterFault))
    (code : String) : Option (Except CounterFault Nat) :=
  came.map fun
    | some fault => .error fault
    | none => .ok (b.tally.count code)

/- End a ping by what came within its limit. -/
def endPing (came : Option (Option CounterFault)) :
    Option (Except CounterFault Unit) :=
  came.map fun
    | some fault => .error fault
    | none => .ok ()

end CounterBackend

end UrlShortener
