import UrlShortener.Http.Health
import UrlShortener.Http.Intake
import UrlShortener.Http.Location
import UrlShortener.Http.Target
import UrlShortener.Service.Shortener
import UrlShortener.Time.Printer

/-
  This file defines how HTTP requests are answered: by the
  path, which names what is asked for, and by the method.

  Key definitions include:
    * `Route`
    * `Route.ofPath?`
    * `Site`
    * `Site.answer`
    * `Site.serve`
    * `Site.serveTrimmed`
-/

namespace UrlShortener

------------------------------------------------------------
-- Routes
------------------------------------------------------------

/- What a path names. -/
inductive Route where
| health
| links
| stats (segment : List Char)
| code (segment : List Char)
deriving DecidableEq, Repr

namespace Route

/- The segments that have a fixed meaning. -/
def healthz : List Char := "healthz".toList
def api : List Char := "api".toList
def linksWord : List Char := "links".toList
def statsWord : List Char := "stats".toList

/-
  What a path names, if anything. A segment is compared as
  it is written, before its escapes are undone.
-/
def ofPath? (path : List Char) : Option Route :=
  match Target.segments? path with
  | some [a] =>
      if a.isEmpty then none
      else if a = healthz then some .health
      else some (.code a)
  | some [a, b] =>
      if a = api ∧ b = linksWord then some .links else none
  | some [a, b, c, d] =>
      if a = api ∧ b = linksWord ∧ d = statsWord then
        some (.stats c)
      else
        none
  | _ => none

end Route

------------------------------------------------------------
-- Answers
------------------------------------------------------------

/-
  What the answers of the service depend on: how links are
  made and how long a probe waits, in milliseconds.
-/
structure Site where
  policy : Policy
  healthTimeout : Nat
deriving DecidableEq, Repr

namespace Site

/- The text of a segment, if its bytes are UTF-8. -/
def segmentText? (segment : List Char) : Option String :=
  (Percent.decode? segment).map String.ofList

/- A link as the answer to its creation shows it. -/
def created (link : Link) : Response :=
  .ofJson 201
    (.record
      ([("short_code", .text link.shortCode),
        ("long_url", .text link.longUrl),
        ("original_url", .text link.originalUrl),
        ("created_at", .text link.createdAt.text)]
        ++ link.expireAt.toList.map fun t =>
          ("expire_at", .text t.text)))

/- Create the link that a request asks for. -/
def create (site : Site) (r : Request) : Dialogue Response :=
  match Intake.read r with
  | .error fault => .done (.ofFailure fault.failure)
  | .ok request =>
      (Shortener.create site.policy request).map fun
      | .ok link => created link
      | .error failure => .ofFailure failure

/- The answer to a segment that no link could have. -/
def noSuchLink : Response :=
  .ofError 404 Failure.unknownLink

/- The redirect to a link. -/
def redirectTo (link : Link) : Response :=
  match Location.ofLink link.longUrl with
  | .ok location => .redirect location
  | .error failure => .ofFailure failure

/-
  Redirect to the link of a segment. Only a segment that
  could name a link is looked up.
-/
def follow
    (site : Site)
    (segment : List Char) : Dialogue Response :=
  match segmentText? segment with
  | none => .done noSuchLink
  | some code =>
      if Code.isCandidate code then
        (Shortener.resolve site.policy code).map fun
        | .ok link => redirectTo link
        | .error failure => .ofFailure failure
      else
        .done noSuchLink

/- An answer that tells a number of visits. -/
def visits (n : Nat) : Response :=
  .ofJson 200 (.record [("visits", .number n)])

/-
  Tell the number of visits of a segment. A segment that is
  no text was never visited.
-/
def stats
    (site : Site)
    (segment : List Char) : Dialogue Response :=
  match segmentText? segment with
  | none => .done (visits 0)
  | some code =>
      (Shortener.stats site.policy code).map fun
      | .ok n => visits n
      | .error failure => .ofFailure failure

end Site

------------------------------------------------------------
-- Methods
------------------------------------------------------------

namespace Site

/-
  Answer a request that only reads. A request for the head
  is answered like one for the whole, without the body.
-/
def reading
    (r : Request)
    (answer : Dialogue Response) : Dialogue Response :=
  if r.method = "GET" then answer
  else if r.method = "HEAD" then answer.map Response.withoutBody
  else .done (.notAllowed "GET,HEAD")

/- The answer where no method is looked at. -/
def unrouted (r : Request) : Response :=
  if r.method = "HEAD" then Response.notServed.withoutBody
  else .notServed

/- Answer a request for a path. -/
def answer
    (site : Site)
    (r : Request)
    (path : List Char) : Dialogue Response :=
  match Route.ofPath? path with
  | none => .done (unrouted r)
  | some .health => reading r (Health.probe site.healthTimeout)
  | some .links =>
      if r.method = "POST" then site.create r
      else .done (.notAllowed "POST")
  | some (.stats segment) => reading r (site.stats segment)
  | some (.code segment) => reading r (site.follow segment)

/- Answer a request for its path as it is. -/
def serve (site : Site) (r : Request) : Dialogue Response :=
  site.answer r (Target.path r.target)

/- Answer a request with the slashes around its path trimmed. -/
def serveTrimmed
    (site : Site)
    (r : Request) : Dialogue Response :=
  site.answer r (Target.trimmed (Target.path r.target))

end Site

end UrlShortener
