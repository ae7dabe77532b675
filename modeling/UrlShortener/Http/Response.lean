import UrlShortener.Service.Failure

/-
  This file defines the answers to HTTP requests, with the
  headers that matter.

  Key definitions include:
    * `Response`
    * `Response.ofJson`
    * `Response.ofFailure`
    * `Response.redirect`
    * `Response.notAllowed`
    * `Response.withoutBody`
-/

namespace UrlShortener

------------------------------------------------------------
-- Responses
------------------------------------------------------------

/- An answer. A body is JSON; without one it is empty. -/
structure Response where
  status : Nat
  location : Option String
  contentType : Option String
  allow : Option String
  body : Option Json
deriving Repr

namespace Response

/- The media type of JSON. -/
def jsonType : String := "application/json"

/- An answer with a body. -/
def ofJson (status : Nat) (body : Json) : Response :=
  { status, location := none, contentType := some jsonType
    allow := none, body := some body }

/- An answer that tells what went wrong. -/
def ofError (status : Nat) (message : String) : Response :=
  ofJson status (.record [("error", .text message)])

/- The answer to a request that failed. -/
def ofFailure (failure : Failure) : Response :=
  ofError failure.status failure.publicMessage

/- An answer that leads elsewhere. -/
def redirect (location : String) : Response :=
  { status := 302, location := some location
    contentType := none, allow := none, body := none }

/- The answer to a method that a path does not serve. -/
def notAllowed (methods : String) : Response :=
  { status := 405, location := none, contentType := none
    allow := some methods, body := none }

/- The answer to a path that is not served. -/
def notServed : Response := ofError 404 "Not found"

/- An answer as a request for its head gets it. -/
def withoutBody (r : Response) : Response :=
  { r with body := none }

end Response

end UrlShortener
