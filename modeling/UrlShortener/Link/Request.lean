import UrlShortener.Link.Entry

/-
  This file defines what is asked for when a link is to be
  created, and the sizes that are refused.

  Key definitions include:
    * `LinkRequest`
    * `LinkRequest.draft`
    * `LinkRequest.oversized`
-/

namespace UrlShortener

------------------------------------------------------------
-- Requests
------------------------------------------------------------

/- A link to create. Only its destination has to be given. -/
structure LinkRequest where
  longUrl : String
  originalUrl : Option String
  userId : Option String
  expireAt : Option Timestamp
deriving DecidableEq, Repr

namespace LinkRequest

/-
  The URL that was shortened in the first place; an empty
  one counts as absent.
-/
def original (r : LinkRequest) : String :=
  match r.originalUrl with
  | some url => if url.isEmpty then r.longUrl else url
  | none => r.longUrl

/- The link that a code and an expiry would make. -/
def draft
    (r : LinkRequest)
    (expireAt : Option Timestamp)
    (code : String) : NewLink :=
  { shortCode := code
    longUrl := r.longUrl
    originalUrl := r.original
    userId := r.userId
    expireAt := expireAt }

end LinkRequest

------------------------------------------------------------
-- Sizes
------------------------------------------------------------

namespace LinkRequest

/- The most characters of a URL and of a user. -/
def maxUrlLength : Nat := 2048
def maxUserLength : Nat := 128

/- A text with more characters than allowed. -/
def exceeds (limit : Nat) (s : String) : Bool :=
  limit < s.length

/- The fields that are too long, by name. -/
def oversized (r : LinkRequest) : List String :=
  [("long_url", exceeds maxUrlLength r.longUrl),
    ("original_url",
      r.originalUrl.any (exceeds maxUrlLength)),
    ("user_id", r.userId.any (exceeds maxUserLength))]
    |>.filterMap fun f => if f.2 then some f.1 else none

end LinkRequest

end UrlShortener
