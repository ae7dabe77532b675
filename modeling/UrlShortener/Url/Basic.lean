import UrlShortener.Url.Address

/-
  This file defines URLs as records of their parts, their
  text, and the reasons why a text is no URL.

  Key definitions include:
    * `UrlFault`
    * `UrlFault.message`
    * `Host`
    * `Host.text`
    * `Url`
    * `Url.text`
-/

namespace UrlShortener

------------------------------------------------------------
-- Faults
------------------------------------------------------------

/- Why a text is not a URL. -/
inductive UrlFault where
| emptyHost
| badDomain
| badPort
| badIpv4
| badIpv6
| badDomainCharacter
| noScheme
deriving DecidableEq, Repr

namespace UrlFault

/- The wording of a fault. -/
def message : UrlFault → String
| .emptyHost => "empty host"
| .badDomain => "invalid international domain name"
| .badPort => "invalid port number"
| .badIpv4 => "invalid IPv4 address"
| .badIpv6 => "invalid IPv6 address"
| .badDomainCharacter => "invalid domain character"
| .noScheme => "relative URL without a base"

end UrlFault

------------------------------------------------------------
-- Hosts
------------------------------------------------------------

/- A host: a name or an address. -/
inductive Host where
| name (text : List Char)
| ipv4 (address : Nat)
| ipv6 (groups : List Nat)
deriving DecidableEq, Repr

namespace Host

/- The text of a host; brackets mark the longer address. -/
def chars : Host → List Char
| .name text => text
| .ipv4 address => Ipv4.chars address
| .ipv6 groups => '[' :: Ipv6.chars groups ++ [']']

/- The text of a host as a string. -/
def text (h : Host) : String :=
  String.ofList h.chars

end Host

------------------------------------------------------------
-- URLs
------------------------------------------------------------

/-
  The parts of a URL, each in its escaped form. A user name
  that is absent is empty, and the port of the scheme is
  never given.
-/
structure Url where
  scheme : List Char
  username : List Char
  password : Option (List Char)
  host : Option Host
  port : Option Nat
  path : List Char
  query : Option (List Char)
  fragment : Option (List Char)
deriving DecidableEq, Repr

namespace Url

/- The user name and password with their at sign. -/
def credentials (u : Url) : List Char :=
  let secret :=
    match u.password with
    | some p => ':' :: p
    | none => []
  if u.username.isEmpty && u.password.isNone then []
  else u.username ++ secret ++ ['@']

/- The port with its colon. -/
def portChars (u : Url) : List Char :=
  match u.port with
  | some n => ':' :: (toString n).toList
  | none => []

/-
  The part between the scheme and the path. Without a host,
  a path that begins like one is kept apart by a dot.
-/
def authority (u : Url) : List Char :=
  match u.host with
  | some h =>
      '/' :: '/' :: u.credentials ++ h.chars ++ u.portChars
  | none =>
      match u.path with
      | '/' :: '/' :: _ => ['/', '.']
      | _ => []

/- A part that a mark stands in front of, if there is one. -/
def marked (mark : Char) : Option (List Char) → List Char
| some part => mark :: part
| none => []

/- The text of a URL. -/
def chars (u : Url) : List Char :=
  u.scheme ++ ':' :: u.authority ++ u.path
    ++ marked '?' u.query ++ marked '#' u.fragment

/- The text of a URL as a string. -/
def text (u : Url) : String :=
  String.ofList u.chars

end Url

end UrlShortener
