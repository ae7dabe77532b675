import UrlShortener.Link.Entry
import UrlShortener.Store.Fault

/-
  This file defines the store of links in memory. Links are
  kept under their short codes, in the order in which they
  were saved, and are numbered in that order. A code is
  never taken twice, not even when its link has expired.
  Once closed, the store refuses every call.

  Key definitions include:
    * `LinkStore`
    * `LinkStore.save`
    * `LinkStore.find`
    * `LinkStore.ping`
    * `LinkStore.close`
-/

namespace UrlShortener

------------------------------------------------------------
-- The store
------------------------------------------------------------

/-
  The links under their codes, the number given last and
  whether the store was closed.
-/
structure LinkStore where
  bindings : List (String × Link)
  lastId : Nat
  closed : Bool
deriving DecidableEq, Repr

namespace LinkStore

/- The store without links. -/
def empty : LinkStore :=
  { bindings := [], lastId := 0, closed := false }

/- The link under a code, whether or not it has expired. -/
def get? (s : LinkStore) (code : String) : Option Link :=
  (s.bindings.find? fun b => b.1 == code).map Prod.snd

/- Whether a code is taken. -/
def contains (s : LinkStore) (code : String) : Bool :=
  s.bindings.any fun b => b.1 == code

/- The number of links, expired ones included. -/
def size (s : LinkStore) : Nat :=
  s.bindings.length

/- A store without links. -/
def isEmpty (s : LinkStore) : Bool :=
  s.bindings.isEmpty

end LinkStore

------------------------------------------------------------
-- Calls
------------------------------------------------------------

namespace LinkStore

/- Store a link under a free code with the next number. -/
def insert
    (s : LinkStore)
    (new : NewLink)
    (now : Timestamp) : Link × LinkStore :=
  let link := new.stored (s.lastId + 1) now
  (link,
    { s with
        bindings := s.bindings ++ [(link.shortCode, link)]
        lastId := s.lastId + 1 })

/-
  Save a link, unless its code is taken. This is the part of
  a save that is left once the store was found open.
-/
def saveOpen
    (s : LinkStore)
    (new : NewLink)
    (now : Timestamp) : Except StoreFault Link × LinkStore :=
  if s.contains new.shortCode then
    (.error (.conflict new.shortCode), s)
  else
    let (link, s) := s.insert new now
    (.ok link, s)

/- Save a link, unless the store is closed. -/
def save
    (s : LinkStore)
    (new : NewLink)
    (now : Timestamp) : Except StoreFault Link × LinkStore :=
  if s.closed then (.error .closed, s)
  else s.saveOpen new now

/- Look up a code in a store that was found open. -/
def findOpen
    (s : LinkStore)
    (code : String) : Except StoreFault Link :=
  match s.get? code with
  | some link => .ok link
  | none => .error .notFound

/- Look up a code. Expiry is for the caller to judge. -/
def find
    (s : LinkStore)
    (code : String) : Except StoreFault Link :=
  if s.closed then .error .closed else s.findOpen code

/- Whether the store still answers. -/
def ping (s : LinkStore) : Except StoreFault Unit :=
  if s.closed then .error .closed else .ok ()

/- Close the store for good. -/
def close (s : LinkStore) : LinkStore :=
  { s with closed := true }

end LinkStore

end UrlShortener
