import UrlShortener.Json.Value
import UrlShortener.Link.Destination
import UrlShortener.Link.Mint
import UrlShortener.Store.Fault
import UrlShortener.Visit.Fault

/-
  This file defines how a request fails. The details of a
  failure are for the log; a client only sees its public
  message.

  Key definitions include:
    * `Failure`
    * `Failure.message`
    * `Failure.publicMessage`
    * `Failure.status`
    * `Failure.ofStore`
    * `Failure.ofCounter`
    * `Failure.ofMint`
-/

namespace UrlShortener

------------------------------------------------------------
-- Failures
------------------------------------------------------------

/-
  How a request fails. A conflict is a code that is taken; a
  request is exhausted when every code it drew was.
-/
inductive Failure where
| invalid (message : String) (details : Json)
| notFound (message : String) (details : Json)
| conflict (message : String) (details : Json)
| exhausted (attempts : Nat)
| internal (message : String) (details : Json)
deriving Repr

namespace Failure

/- The wording of a failure, for the log. -/
def message : Failure → String
| .invalid message _ => message
| .notFound message _ => message
| .conflict message _ => message
| .exhausted attempts =>
    "failed to generate a unique short code after "
      ++ toString attempts ++ " attempts"
| .internal message _ => message

/- The details of a failure, for the log. -/
def details : Failure → Json
| .invalid _ details => details
| .notFound _ details => details
| .conflict _ details => details
| .exhausted attempts => .record [("attempts", .number attempts)]
| .internal _ details => details

/- The HTTP status of a failure. -/
def status : Failure → Nat
| .invalid _ _ => 400
| .notFound _ _ => 404
| .conflict _ _ => 500
| .exhausted _ => 409
| .internal _ _ => 500

/- The wording of every failure of the service itself. -/
def hidden : String := "Internal server error"

/- The wording of a failure, for clients. -/
def publicMessage : Failure → String
| .conflict _ _ => hidden
| .internal _ _ => hidden
| failure => failure.message

end Failure

------------------------------------------------------------
-- Causes
------------------------------------------------------------

namespace Failure

/- Details that name a cause. -/
def causedBy (message : String) : Json :=
  .record [("cause", .text message)]

/- Details that name a short code. -/
def aboutCode (code : String) : Json :=
  .record [("short_code", .text code)]

/- The wording for a code without a live link. -/
def unknownLink : String := "Short link not found"

/- A fault of the link store. -/
def ofStore : StoreFault → Failure
| .notFound => .notFound unknownLink .empty
| .conflict code =>
    .conflict "Short code already exists" (aboutCode code)
| fault =>
    .internal "Link store failure" (causedBy fault.message)

/- A fault of the visit counter. -/
def ofCounter (fault : CounterFault) : Failure :=
  .internal "Visit counter failure" (causedBy fault.message)

/- A fault of the minting of codes. -/
def ofMint (fault : MintFault) : Failure :=
  .internal "Short code generation failed"
    (causedBy fault.message)

/- A destination that no link may lead to. -/
def ofDestination
    (longUrl : String)
    (fault : DestinationFault) : Failure :=
  .invalid ("Invalid long_url: " ++ fault.message)
    (.record [("long_url", .text longUrl)])

end Failure

end UrlShortener
