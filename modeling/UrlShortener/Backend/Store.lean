import UrlShortener.Backend.Reply
import UrlShortener.Store.Memory

/-
  This file defines the link store as the service meets it:
  its calls take time and may fail before they reach the
  links. A call that fails or is given up leaves the links
  as they were.

  Key definitions include:
    * `StoreBackend`
    * `StoreBackend.beginSave`
    * `StoreBackend.endSave`
    * `StoreBackend.endFind`
    * `StoreBackend.endPing`
-/

namespace UrlShortener

------------------------------------------------------------
-- The backend
------------------------------------------------------------

/- The links and the replies to the calls to come. -/
structure StoreBackend where
  store : LinkStore
  saves : List (Reply StoreFault)
  finds : List (Reply StoreFault)
  pings : List (Reply StoreFault)
deriving DecidableEq, Repr

namespace StoreBackend

/- A store without links that answers at once. -/
def fresh : StoreBackend :=
  { store := .empty, saves := [], finds := [], pings := [] }

end StoreBackend

------------------------------------------------------------
-- Calls that begin
------------------------------------------------------------

namespace StoreBackend

/- Begin to save: take the reply the call will get. -/
def beginSave (b : StoreBackend) :
    Reply StoreFault × StoreBackend :=
  let (reply, rest) := Reply.next b.saves
  (reply, { b with saves := rest })

/- Begin to look up a code. -/
def beginFind (b : StoreBackend) :
    Reply StoreFault × StoreBackend :=
  let (reply, rest) := Reply.next b.finds
  (reply, { b with finds := rest })

/- Begin to ping. -/
def beginPing (b : StoreBackend) :
    Reply StoreFault × StoreBackend :=
  let (reply, rest) := Reply.next b.pings
  (reply, { b with pings := rest })

end StoreBackend

------------------------------------------------------------
-- Calls that end
------------------------------------------------------------

namespace StoreBackend

/-
  End a save by what came within its limit. The answer is
  empty when the call was given up.
-/
def endSave
    (b : StoreBackend)
    (came : Option (Option StoreFault))
    (new : NewLink)
    (now : Timestamp) :
    Option (Except StoreFault Link) × StoreBackend :=
  match came with
  | none => (none, b)
  | some (some fault) => (some (.error fault), b)
  | some none =>
      let (result, store) := b.store.save new now
      (some result, { b with store := store })

/- End a look-up by what came within its limit. -/
def endFind
    (b : StoreBackend)
    (came : Option (Option StoreFault))
    (code : String) : Option (Except StoreFault Link) :=
  came.map fun
    | some fault => .error fault
    | none => b.store.find code

/- End a ping by what came within its limit. -/
def endPing
    (b : StoreBackend)
    (came : Option (Option StoreFault)) :
    Option (Except StoreFault Unit) :=
  came.map fun
    | some fault => .error fault
    | none => b.store.ping

end StoreBackend

end UrlShortener
