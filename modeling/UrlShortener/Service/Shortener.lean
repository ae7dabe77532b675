import UrlShortener.Link.Code
import UrlShortener.Link.Request
import UrlShortener.Service.Dialogue
import UrlShortener.Service.Failure
import UrlShortener.Service.Policy

/-
  This file defines what the service does: it creates links,
  resolves short codes and reads counts of visits.

  Key definitions include:
    * `Shortener.create`
    * `Shortener.resolve`
    * `Shortener.stats`
-/

namespace UrlShortener

------------------------------------------------------------
-- Creation
------------------------------------------------------------

namespace Shortener

/- A call of the store that took too long. -/
def storeTimeout (limit : Nat) : Failure :=
  .ofStore (.timeout (Span.ofMillis limit))

/- A default expiry that the calendar does not reach. -/
def unreachableExpiry (ttl : Int) : Failure :=
  .internal "Default expiry is out of range"
    (.record [("ttl_seconds", .number ttl)])

/-
  Go on after the save of a link: draw again when its code
  was taken, and otherwise come to an end.
-/
def afterSave
    (policy : Policy)
    (again : Dialogue (Except Failure Link)) :
    Option (Except StoreFault Link) →
    Dialogue (Except Failure Link)
| none => .done (.error (storeTimeout policy.storeTimeout))
| some (.ok link) => .note .linksCreated (.done (.ok link))
| some (.error (.conflict _)) => .note .collisions again
| some (.error fault) => .done (.error (.ofStore fault))

/-
  Draw codes until one can be saved, at most a number of
  times. A code that is reserved or taken costs one draw;
  every other fault ends the request.
-/
def attempt
    (policy : Policy)
    (draft : String → NewLink) :
    Nat → Dialogue (Except Failure Link)
| 0 =>
    .note .exhausted
      (.done (.error (.exhausted policy.maxAttempts)))
| left + 1 =>
    .draw policy.codeLength fun
    | .error fault => .done (.error (.ofMint fault))
    | .ok code =>
        if Code.isReserved code then attempt policy draft left
        else
          .save policy.storeTimeout (draft code)
            (afterSave policy (attempt policy draft left))

/- Find the expiry of a link, then go on with it. -/
def withExpiry
    (policy : Policy)
    (given : Option Timestamp)
    (next :
      Option Timestamp → Dialogue (Except Failure Link)) :
    Dialogue (Except Failure Link) :=
  match given, policy.defaultTtl with
  | some at_, _ => next (some at_)
  | none, none => next none
  | none, some ttl =>
      .readClock fun now =>
        match now.addSeconds? ttl with
        | some at_ => next (some at_)
        | none => .done (.error (unreachableExpiry ttl))

/- Create a link. -/
def create
    (policy : Policy)
    (request : LinkRequest) : Dialogue (Except Failure Link) :=
  match Destination.validate request.longUrl with
  | .error fault =>
      .done (.error (.ofDestination request.longUrl fault))
  | .ok _ =>
      withExpiry policy request.expireAt fun expireAt =>
        attempt policy (request.draft expireAt)
          policy.maxAttempts

end Shortener

------------------------------------------------------------
-- Resolution
------------------------------------------------------------

namespace Shortener

/- A code of blanks alone. -/
def blankCode : Failure :=
  .invalid "short_code must not be empty" .empty

/- A code that no link has. -/
def unknownCode (code : String) : Failure :=
  .notFound Failure.unknownLink (Failure.aboutCode code)

/- A code whose link has expired. -/
def expiredCode (code : String) : Failure :=
  .notFound Failure.unknownLink
    (.record
      [("short_code", .text code), ("expired", .flag true)])

/- Queue a visit; one that finds no place is dropped. -/
def schedule
    {α : Type}
    (code : String)
    (result : α) : Dialogue α :=
  .visit code fun taken =>
    if taken then .done result
    else .note .visitsDropped (.done result)

/- Go on with the link of a code: queue a visit if it lives. -/
def afterFind
    (code : String)
    (link : Link) : Dialogue (Except Failure Link) :=
  .readClock fun now =>
    if link.expiredAt now then
      .done (.error (expiredCode code))
    else
      .note .resolves (schedule link.shortCode (.ok link))

/- Find the live link of a code and queue a visit of it. -/
def resolve
    (policy : Policy)
    (code : String) : Dialogue (Except Failure Link) :=
  if Text.isBlankText code then .done (.error blankCode)
  else
    .find policy.storeTimeout code fun
    | none => .done (.error (storeTimeout policy.storeTimeout))
    | some (.error .notFound) =>
        .done (.error (unknownCode code))
    | some (.error fault) => .done (.error (.ofStore fault))
    | some (.ok link) => afterFind code link

end Shortener

------------------------------------------------------------
-- Statistics
------------------------------------------------------------

namespace Shortener

/- The number of visits of a code, zero if it has none. -/
def stats
    (policy : Policy)
    (code : String) : Dialogue (Except Failure Nat) :=
  .count policy.storeTimeout code fun
  | none =>
      .done (.error (.ofCounter
        (.timeout (Span.ofMillis policy.storeTimeout))))
  | some (.error fault) => .done (.error (.ofCounter fault))
  | some (.ok n) => .done (.ok n)

end Shortener

end UrlShortener
