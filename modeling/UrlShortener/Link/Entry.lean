import UrlShortener.Time.Timestamp

/-
  This file defines links: the binding of a short code to
  its destination, and when a link has expired.

  Key definitions include:
    * `NewLink`
    * `Link`
    * `NewLink.stored`
    * `Link.expiredAt`
-/

namespace UrlShortener

------------------------------------------------------------
-- Links
------------------------------------------------------------

/-
  A link before it is stored. Without an expiry it is meant
  to live forever.
-/
structure NewLink where
  shortCode : String
  longUrl : String
  originalUrl : String
  userId : Option String
  expireAt : Option Timestamp
deriving DecidableEq, Repr

/-
  A stored link. The store chooses its number and knows
  when it was created.
-/
structure Link where
  id : Int
  shortCode : String
  longUrl : String
  originalUrl : String
  userId : Option String
  createdAt : Timestamp
  expireAt : Option Timestamp
deriving DecidableEq, Repr

namespace NewLink

/- The stored form of a link. -/
def stored
    (new : NewLink)
    (id : Int)
    (now : Timestamp) : Link :=
  { id := id
    shortCode := new.shortCode
    longUrl := new.longUrl
    originalUrl := new.originalUrl
    userId := new.userId
    createdAt := now
    expireAt := new.expireAt }

end NewLink

------------------------------------------------------------
-- Expiry
------------------------------------------------------------

namespace Link

/- A link has expired strictly after its expiry. -/
def expiredAt (link : Link) (now : Timestamp) : Bool :=
  match link.expireAt with
  | some at_ => at_.before now
  | none => false

end Link

end UrlShortener
