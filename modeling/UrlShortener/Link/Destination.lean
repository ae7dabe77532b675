import UrlShortener.Text.Blank
import UrlShortener.Url.Parser

/-
  This file defines which URLs a link may lead to: web URLs
  with a host, given without blanks around them.

  Key definitions include:
    * `DestinationFault`
    * `DestinationFault.message`
    * `Destination.validate`
-/

namespace UrlShortener

------------------------------------------------------------
-- Faults
------------------------------------------------------------

/- Why a text is no destination. -/
inductive DestinationFault where
| empty
| surroundingBlank
| invalidFormat (reason : UrlFault)
| unsupportedProtocol
| missingHost
deriving DecidableEq, Repr

namespace DestinationFault

/- The wording of a fault. -/
def message : DestinationFault → String
| .empty => "URL must not be empty"
| .surroundingBlank =>
    "URL must not have leading or trailing whitespace"
| .invalidFormat reason =>
    "Invalid URL format: " ++ reason.message
| .unsupportedProtocol =>
    "Only HTTP and HTTPS protocols are allowed"
| .missingHost => "URL must include a host"

/- A fault of the URL itself; an absent host is told apart. -/
def ofUrl : UrlFault → DestinationFault
| .emptyHost => .missingHost
| fault => .invalidFormat fault

end DestinationFault

------------------------------------------------------------
-- Validation
------------------------------------------------------------

namespace Destination

/- The schemes of the web. -/
def isWeb (u : Url) : Bool :=
  u.scheme == "http".toList || u.scheme == "https".toList

/- A URL that names a host. -/
def hasHost (u : Url) : Bool :=
  match u.host with
  | some h => !h.chars.isEmpty
  | none => false

/- Check a destination; the answer is its URL. -/
def validate (input : String) :
    Except DestinationFault Url :=
  if Text.isBlankText input then .error .empty
  else if Text.trim input.toList ≠ input.toList then
    .error .surroundingBlank
  else
    match Url.ofText input with
    | .error fault => .error (.ofUrl fault)
    | .ok u =>
        if !isWeb u then .error .unsupportedProtocol
        else if !hasHost u then .error .missingHost
        else .ok u

end Destination

end UrlShortener
