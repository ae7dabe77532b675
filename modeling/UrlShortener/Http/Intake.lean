import UrlShortener.Http.LinkBody
import UrlShortener.Http.Request
import UrlShortener.Service.Failure

/-
  This file defines which requests to create a link are let
  in: those whose body is said to be JSON, is not too long,
  holds a link request and has no field that is too long.

  Key definitions include:
    * `IntakeFault`
    * `IntakeFault.failure`
    * `Intake.read`
-/

namespace UrlShortener

------------------------------------------------------------
-- Faults
------------------------------------------------------------

/- Why a body is refused. -/
inductive IntakeFault where
| notJsonType
| tooLong
| unreadable (body : List UInt8) (fault : Json.Fault)
| oversized (fields : List String)
deriving DecidableEq, Repr

namespace IntakeFault

/- What stands in front of a fault in a body. -/
def lead : Json.Cause → String
| .notJson _ => "Failed to parse the request body as JSON: "
| .notAsked _ =>
    "Failed to deserialize the JSON body into the target type: "

/- The wording of a fault. -/
def message : IntakeFault → String
| .notJsonType =>
    "Expected request with "
      ++ "\x60Content-Type: application/json\x60"
| .tooLong =>
    "Failed to buffer the request body: length limit exceeded"
| .unreadable body fault =>
    lead fault.cause ++ fault.message body
| .oversized fields =>
    "Invalid request: " ++ String.intercalate ", " fields

/- The details of a fault, for the log. -/
def details : IntakeFault → Json
| .notJsonType => .record [("status", .number 415)]
| .tooLong => .record [("status", .number 413)]
| .unreadable _ fault =>
    match fault.cause with
    | .notJson _ => .record [("status", .number 400)]
    | .notAsked _ => .record [("status", .number 422)]
| .oversized fields =>
    .record [("reason", .list (fields.map .text))]

/- The failure of a request whose body is refused. -/
def failure (fault : IntakeFault) : Failure :=
  .invalid fault.message fault.details

end IntakeFault

------------------------------------------------------------
-- Intake
------------------------------------------------------------

namespace Intake

/- The most bytes of a body. -/
def maxBody : Nat := 2097152

/- Read the link request that a request carries. -/
def read (r : Request) : Except IntakeFault LinkRequest :=
  if !r.saysJson then .error .notJsonType
  else if maxBody < r.body.length then .error .tooLong
  else
    match LinkBody.read r.body with
    | .error fault => .error (.unreadable r.body fault)
    | .ok request =>
        match request.oversized with
        | [] => .ok request
        | fields => .error (.oversized fields)

end Intake

end UrlShortener
