import UrlShortener.Number.Signed
import UrlShortener.Text.Percent
import UrlShortener.Url.Parser

/-
  This file defines the reading of the URL of a counting
  server: where the server is, which of its databases is
  used, and who asks.

  Key definitions include:
    * `AddressFault`
    * `ServerAddress`
    * `ServerAddress.ofText`
-/

namespace UrlShortener

------------------------------------------------------------
-- Faults
------------------------------------------------------------

/- Why a URL names no server that can be used. -/
inductive AddressFault where
| notServerUrl
| noHost
| noPath
| secured
| badDatabase
| badUser
| badPassword
| badProtocol (name : String)
deriving DecidableEq, Repr

namespace AddressFault

/- The kind of all these faults. -/
def kind : String := "InvalidClientConfig"

/- The wording of a fault. -/
def message : AddressFault → String
| .notServerUrl => "Redis URL did not parse - " ++ kind
| .noHost => "Missing hostname - " ++ kind
| .noPath => "Missing path - " ++ kind
| .secured =>
    "can't connect with TLS, the feature is not enabled - "
      ++ kind
| .badDatabase => "Invalid database number - " ++ kind
| .badUser => "Username is not valid UTF-8 string - " ++ kind
| .badPassword =>
    "Password is not valid UTF-8 string - " ++ kind
| .badProtocol name =>
    "Invalid protocol version - " ++ kind ++ ": " ++ name

end AddressFault

------------------------------------------------------------
-- Addresses
------------------------------------------------------------

/- Where a server is: on a host, or at a path. -/
inductive Endpoint where
| host (name : List Char) (port : Nat)
| path (name : List Char)
deriving DecidableEq, Repr

/-
  A server, the number of a database and the user and the
  password to ask with.
-/
structure ServerAddress where
  endpoint : Endpoint
  database : Int
  user : Option (List Char)
  password : Option (List Char)
deriving DecidableEq, Repr

namespace ServerAddress

/- The port of a server without one. -/
def usualPort : Nat := 6379

/- The schemes of servers on a host, plain and secured. -/
def hostSchemes : List String := ["redis", "valkey"]
def securedSchemes : List String := ["rediss", "valkeys"]

/- The schemes of servers at a path. -/
def pathSchemes : List String :=
  ["unix", "redis+unix", "valkey+unix"]

end ServerAddress

------------------------------------------------------------
-- Parts of the URL
------------------------------------------------------------

namespace ServerAddress

/- The host of a URL without brackets, if it is not empty. -/
def hostName? (u : Url) : Option (List Char) :=
  match u.host with
  | some (.name []) => none
  | some (.name name) => some name
  | some (.ipv4 address) => some (Ipv4.chars address)
  | some (.ipv6 groups) => some (Ipv6.chars groups)
  | none => none

/- A path without the slashes around it. -/
def withoutSlashes (path : List Char) : List Char :=
  ((path.dropWhile (· == '/')).reverse.dropWhile
    (· == '/')).reverse

/- A database number; the first one if none is given. -/
def readDatabase (text : List Char) : Except AddressFault Int :=
  if text.isEmpty then .ok 0
  else
    match Signed.read? text with
    | some n => .ok n
    | none => .error .badDatabase

/- The user of a URL. -/
def readUser (u : Url) :
    Except AddressFault (Option (List Char)) :=
  if u.username.isEmpty then .ok none
  else
    match Percent.decode? u.username with
    | some name => .ok (some name)
    | none => .error .badUser

/- The password of a URL. -/
def readPassword (u : Url) :
    Except AddressFault (Option (List Char)) :=
  match u.password with
  | none => .ok none
  | some secret =>
      match Percent.decode? secret with
      | some text => .ok (some text)
      | none => .error .badPassword

/- A part of a form, with plus signs for blanks. -/
def formText (cs : List Char) : List Char :=
  let bytes :=
    Percent.unescape
      (Utf8.encode (cs.map fun c => if c = '+' then ' ' else c))
  Utf8.decodeLossy bytes.length bytes

/- A name and a value of a form. -/
def formPair (cs : List Char) : List Char × List Char :=
  match Text.cutAtFirst? '=' cs with
  | some (name, value) => (formText name, formText value)
  | none => (formText cs, [])

/- The last value of a name in the query of a URL. -/
def query? (u : Url) (name : String) : Option (List Char) :=
  (((Text.split '&' (u.query.getD [])).filter
    fun part => !part.isEmpty).map formPair).reverse.find?
      (fun pair => pair.1 == name.toList) |>.map Prod.snd

/- Check the protocol that a URL asks for. -/
def checkProtocol (u : Url) : Except AddressFault Unit :=
  match query? u "protocol" with
  | none => .ok ()
  | some name =>
      let known := ["2", "resp2", "3", "resp3"]
      if known.contains (String.ofList name) then .ok ()
      else .error (.badProtocol (String.ofList name))

end ServerAddress

------------------------------------------------------------
-- Whole URLs
------------------------------------------------------------

namespace ServerAddress

/- The address of a server on a host. -/
def onHost (u : Url) (secured : Bool) :
    Except AddressFault ServerAddress := do
  match hostName? u with
  | none => .error .noHost
  | some host =>
      if secured then .error .secured
      else
        let database ← readDatabase (withoutSlashes u.path)
        let user ← readUser u
        let password ← readPassword u
        checkProtocol u
        return {
          endpoint := .host host (u.port.getD usualPort)
          database, user, password }

/- The address of a server at a path of this machine. -/
def atPath (u : Url) : Except AddressFault ServerAddress := do
  if (hostName? u).isSome || u.path.head? != some '/' then
    .error .noPath
  else
    let database ← readDatabase ((query? u "db").getD [])
    checkProtocol u
    return {
      endpoint := .path u.path
      database
      user := query? u "user"
      password := query? u "pass" }

/- The address that a URL gives. -/
def ofUrl (u : Url) : Except AddressFault ServerAddress :=
  let scheme := String.ofList u.scheme
  if hostSchemes.contains scheme then onHost u false
  else if securedSchemes.contains scheme then onHost u true
  else if pathSchemes.contains scheme then atPath u
  else .error .notServerUrl

/- Read the address of a server. -/
def ofText (s : String) : Except AddressFault ServerAddress :=
  match Url.ofText s with
  | .ok u => ofUrl u
  | .error _ => .error .notServerUrl

end ServerAddress

end UrlShortener
