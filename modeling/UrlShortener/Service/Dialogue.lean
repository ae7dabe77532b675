import UrlShortener.Link.Entry
import UrlShortener.Link.Mint
import UrlShortener.Service.Metrics
import UrlShortener.Store.Fault
import UrlShortener.Visit.Fault

/-
  This file defines requests as dialogues with what the
  service depends on: the clock, the minting of codes, the
  link store, the visit counter and the visit queue. A call
  that may take time has a limit in milliseconds, and its
  answer is empty when the limit passed without one.

  Key definitions include:
    * `Dialogue`
    * `Dialogue.bind`
-/

namespace UrlShortener

------------------------------------------------------------
-- Dialogues
------------------------------------------------------------

/- A request under way: a result, or a call and what follows. -/
inductive Dialogue (α : Type) where
| done (result : α)
| readClock (next : Timestamp → Dialogue α)
| draw
    (length : Nat)
    (next : Except MintFault String → Dialogue α)
| save
    (limit : Nat)
    (new : NewLink)
    (next : Option (Except StoreFault Link) → Dialogue α)
| find
    (limit : Nat)
    (code : String)
    (next : Option (Except StoreFault Link) → Dialogue α)
| count
    (limit : Nat)
    (code : String)
    (next : Option (Except CounterFault Nat) → Dialogue α)
| probe
    (limit : Nat)
    (next :
      Option (Except StoreFault Unit) →
      Option (Except CounterFault Unit) → Dialogue α)
| visit (code : String) (next : Bool → Dialogue α)
| places (next : Option Nat → Dialogue α)
| note (metric : Metric) (next : Dialogue α)

namespace Dialogue

/- Go on with the result of a dialogue. -/
def bind
    {α β : Type}
    (d : Dialogue α)
    (f : α → Dialogue β) : Dialogue β :=
  match d with
  | .done a => f a
  | .readClock next => .readClock fun t => (next t).bind f
  | .draw n next => .draw n fun r => (next r).bind f
  | .save limit new next =>
      .save limit new fun r => (next r).bind f
  | .find limit code next =>
      .find limit code fun r => (next r).bind f
  | .count limit code next =>
      .count limit code fun r => (next r).bind f
  | .probe limit next =>
      .probe limit fun r s => (next r s).bind f
  | .visit code next => .visit code fun taken => (next taken).bind f
  | .places next => .places fun free => (next free).bind f
  | .note metric next => .note metric (next.bind f)

/- Change the result of a dialogue. -/
def map
    {α β : Type}
    (f : α → β)
    (d : Dialogue α) : Dialogue β :=
  d.bind fun a => .done (f a)

end Dialogue

end UrlShortener
