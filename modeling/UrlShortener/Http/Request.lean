import UrlShortener.Http.MediaType

/-
  This file defines HTTP requests.

  Key definitions include:
    * `Request`
    * `Request.header?`
    * `Request.saysJson`
-/

namespace UrlShortener

------------------------------------------------------------
-- Requests
------------------------------------------------------------

/- A request. Methods are told apart by letter case too. -/
structure Request where
  method : String
  target : String
  headers : List (String × String)
  body : List UInt8
deriving DecidableEq, Repr

namespace Request

/- The first header of a name, in any letter case. -/
def header? (r : Request) (name : String) : Option String :=
  (r.headers.find? fun h =>
    h.1.toList.map Char.toLower == name.toList).map Prod.snd

/- A header that is made of visible ASCII alone. -/
def isPlain (value : String) : Bool :=
  value.toList.all fun c =>
    c == '\t' || (0x20 ≤ c.toNat && c.toNat < 0x7F)

/- Whether the body is said to be JSON. -/
def saysJson (r : Request) : Bool :=
  match r.header? "content-type" with
  | some value =>
      isPlain value
        && (MediaType.read? value.toList).any MediaType.isJson
  | none => false

end Request

end UrlShortener
