import UrlShortener.Text.Percent
import UrlShortener.Url.Basic
import UrlShortener.Url.Domain

/-
  This file defines the reading of the host of a URL: an
  address in brackets, or a domain name, which may turn out
  to be an address too. The hosts of schemes that are not
  special are kept as they are.

  Key definitions include:
    * `Host.bracketed`
    * `Host.ofDomain`
    * `Host.ofOther`
-/

namespace UrlShortener

------------------------------------------------------------
-- Hosts
------------------------------------------------------------

namespace Host

/- Read an address in brackets, after the first one. -/
def bracketed (cs : List Char) : Except UrlFault Host :=
  if cs.getLast? = some ']' then
    match Ipv6.read? cs.dropLast with
    | some groups => .ok (.ipv6 groups)
    | none => .error .badIpv6
  else
    .error .badIpv6

/-
  The characters of a domain name with its escapes undone.
  Bytes that are not UTF-8 become characters that no name
  may hold.
-/
def unescaped (cs : List Char) : List Char :=
  let bytes := Percent.unescape (Utf8.encode cs)
  Utf8.decodeLossy bytes.length bytes

/- Read the host of a special scheme. -/
def ofDomain (cs : List Char) : Except UrlFault Host :=
  match cs with
  | '[' :: rest => bracketed rest
  | _ =>
      match Domain.toAscii? (unescaped cs) with
      | none => .error .badDomain
      | some [] => .error .emptyHost
      | some domain =>
          if Ipv4.endsInNumber domain then
            match Ipv4.read? domain with
            | some address => .ok (.ipv4 address)
            | none => .error .badIpv4
          else
            .ok (.name domain)

/- The characters no host may hold. -/
def isForbidden (c : Char) : Bool :=
  "\x00\t\n\r #/:<>?@[\\]^|".toList.contains c

/- The characters that are escaped in any part of a URL. -/
def isControl (c : Char) : Bool :=
  c.toNat < 0x20 || c.toNat = 0x7F

/- Read the host of a scheme that is not special. -/
def ofOther (cs : List Char) : Except UrlFault Host :=
  match cs with
  | '[' :: rest => bracketed rest
  | _ =>
      if cs.any isForbidden then .error .badDomainCharacter
      else .ok (.name (Percent.escape isControl cs))

end Host

end UrlShortener
