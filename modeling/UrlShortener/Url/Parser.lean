import UrlShortener.Url.Host

/-
  This file defines the reading of URLs. Tabs and line
  breaks are dropped wherever they stand, and so are blanks
  and control characters at both ends.

  Key definitions include:
    * `Scheme`
    * `Scheme.kind`
    * `Url.cleaned`
    * `Url.splitScheme?`
    * `Url.readAuthority`
    * `Url.readPath`
    * `Url.parse`
-/

namespace UrlShortener

------------------------------------------------------------
-- Schemes
------------------------------------------------------------

/- The kinds of schemes, special ones with their port. -/
inductive Scheme where
| special (port : Nat)
| file
| other
deriving DecidableEq, Repr

namespace Scheme

/- The kind of a scheme. -/
def kind (name : List Char) : Scheme :=
  match String.ofList name with
  | "http" => .special 80
  | "https" => .special 443
  | "ws" => .special 80
  | "wss" => .special 443
  | "ftp" => .special 21
  | "file" => .file
  | _ => .other

/- In special schemes a backslash stands for a slash. -/
def isSpecial : Scheme → Bool
| .other => false
| _ => true

/- A character that separates the parts of a path. -/
def isSlash (s : Scheme) (c : Char) : Bool :=
  c == '/' || (s.isSpecial && c == '\\')

/- A character that ends the authority. -/
def endsAuthority (s : Scheme) (c : Char) : Bool :=
  s.isSlash c || c == '?' || c == '#'

end Scheme

------------------------------------------------------------
-- Sets of escaped characters
------------------------------------------------------------

namespace Url

/- Characters escaped in a fragment. -/
def escapedInFragment (c : Char) : Bool :=
  Host.isControl c || " \x22<>\x60".toList.contains c

/- Characters escaped in a path. -/
def escapedInPath (c : Char) : Bool :=
  escapedInFragment c || "#?\x7b\x7d".toList.contains c

/- Characters escaped in a user name or a password. -/
def escapedInUser (c : Char) : Bool :=
  escapedInPath c || "/:;=@[\\]^|".toList.contains c

/- Characters escaped in a query. -/
def escapedInQuery (s : Scheme) (c : Char) : Bool :=
  Host.isControl c || " \x22#<>".toList.contains c
    || (s.isSpecial && c == '\x27')

end Url

------------------------------------------------------------
-- Beginning
------------------------------------------------------------

namespace Url

/- Characters dropped at the ends of a text. -/
def isStripped (c : Char) : Bool :=
  c.toNat ≤ 0x20

/- Characters dropped wherever they stand. -/
def isSkipped (c : Char) : Bool :=
  c == '\t' || c == '\n' || c == '\r'

/- A text without the characters that are dropped. -/
def cleaned (cs : List Char) : List Char :=
  let front := cs.dropWhile isStripped
  ((front.reverse.dropWhile isStripped).reverse).filter
    fun c => !isSkipped c

/- The characters of a scheme after its first letter. -/
def isSchemeChar (c : Char) : Bool :=
  c.isAlphanum || c == '+' || c == '-' || c == '.'

/-
  The scheme in lower case and what follows its colon, if
  the text begins with a scheme.
-/
def splitScheme? (cs : List Char) :
    Option (List Char × List Char) :=
  match cs with
  | [] => none
  | c :: _ =>
      if c.isAlpha then
        match cs.dropWhile isSchemeChar with
        | ':' :: rest =>
            some ((cs.takeWhile isSchemeChar).map Char.toLower,
              rest)
        | _ => none
      else
        none

end Url

------------------------------------------------------------
-- Authority
------------------------------------------------------------

namespace Url

/-
  The part in front of the last at sign, if there is one,
  and the part after it.
-/
def splitLastAt (cs : List Char) :
    Option (List Char) × List Char :=
  let after := (cs.reverse.takeWhile (· != '@')).reverse
  if after.length = cs.length then (none, cs)
  else (some (cs.take (cs.length - after.length - 1)), after)

/- The user name and the password of a user part. -/
def readUser (cs : List Char) :
    List Char × Option (List Char) :=
  let name := cs.takeWhile (· != ':')
  let secret := (cs.dropWhile (· != ':')).drop 1
  (Percent.escape escapedInUser name,
    if secret.isEmpty then none
    else some (Percent.escape escapedInUser secret))

/-
  Split a host from a port at the first colon that is not
  in brackets. The flag says whether a bracket is open.
-/
def splitPort : Bool → List Char → List Char × List Char
| _, [] => ([], [])
| inside, c :: rest =>
    if c = ':' && !inside then ([], c :: rest)
    else
      let inside :=
        if c = '[' then true
        else if c = ']' then false else inside
      let (host, after) := splitPort inside rest
      (c :: host, after)

/- The largest port. -/
def maxPort : Nat := 65535

/- Read the digits of a port onto a number already read. -/
def portDigits : Nat → List Char → Except UrlFault Nat
| n, [] => .ok n
| n, c :: rest =>
    if c.isDigit then
      let next := 10 * n + (c.toNat - 48)
      if next ≤ maxPort then portDigits next rest
      else .error .badPort
    else
      .error .badPort

/- Read a port with its colon. A default port is absent. -/
def readPort (s : Scheme) :
    List Char → Except UrlFault (Option Nat)
| [] => .ok none
| _ :: digits => do
    let n ← portDigits 0 digits
    if digits.isEmpty || s = .special n then .ok none
    else .ok (some n)

/-
  Read the host of a scheme that is not special. It may be
  empty, unless a user or a port belongs to it.
-/
def readOtherHost
    (hasUser : Bool)
    (host port : List Char) : Except UrlFault Host :=
  if host.isEmpty && (hasUser || !port.isEmpty) then
    .error .emptyHost
  else
    Host.ofOther host

/-
  In schemes that are not special a backslash ends a port,
  and the path begins with it.
-/
def cutPort (s : Scheme) (port : List Char) :
    List Char × List Char :=
  if s.isSpecial then (port, [])
  else (port.takeWhile (· != '\\'), port.dropWhile (· != '\\'))

/-
  Read the part of a URL between its slashes, which may be
  the last one, and what is left of it for the path.
-/
def readAuthority
    (s : Scheme)
    (scheme region : List Char)
    (isLast : Bool) :
    Except UrlFault (Url × List Char) := do
  let (user?, place) := splitLastAt region
  if user? = some [] && place.isEmpty && !isLast then
    .error .emptyHost
  else
    let (username, password) := readUser (user?.getD [])
    let hasUser := !username.isEmpty || password.isSome
    let (host, rest) := splitPort false place
    let h ←
      match s with
      | .other => readOtherHost hasUser host rest
      | _ =>
          if host.isEmpty then .error .emptyHost
          else Host.ofDomain host
    let (port, left) := cutPort s rest
    let n ← readPort s port
    .ok
      ({ scheme, username, password
         host := some h
         port := n
         path := [], query := none, fragment := none },
        left)

end Url

------------------------------------------------------------
-- Path
------------------------------------------------------------

namespace Url

/- A part of a path that stands for its own place. -/
def isSingleDot (part : List Char) : Bool :=
  [".", "%2e"].contains
    (String.ofList (part.map Char.toLower))

/- A part of a path that stands for the place above. -/
def isDoubleDot (part : List Char) : Bool :=
  ["..", "%2e.", ".%2e", "%2e%2e"].contains
    (String.ofList (part.map Char.toLower))

/- The name of a drive, which is never left upwards. -/
def isDrive : List Char → Bool
| [c, mark] => c.isAlpha && (mark == ':' || mark == '|')
| _ => false

/- Leave a place upwards. The parts are kept in reverse. -/
def leave : List (List Char) → List (List Char)
| [] => []
| part :: above => if isDrive part then part :: above else above

/-
  Walk along the parts of a path, written ones in reverse.
  A dot at the end leaves an empty last part.
-/
def walk :
    List (List Char) → List (List Char) → List (List Char)
| done, [] => done.reverse
| done, [part] =>
    if isDoubleDot part then ([] :: leave done).reverse
    else if isSingleDot part then ([] :: done).reverse
    else (part :: done).reverse
| done, part :: next :: rest =>
    if isDoubleDot part then walk (leave done) (next :: rest)
    else if isSingleDot part then walk done (next :: rest)
    else walk (part :: done) (next :: rest)

/- The text of a path of parts. -/
def pathChars (parts : List (List Char)) : List Char :=
  parts.flatMap fun part => '/' :: part

/- The escaped parts of a path, after a slash in front. -/
def parts (s : Scheme) (cs : List Char) : List (List Char) :=
  let inner :=
    match cs with
    | c :: rest => if s.isSlash c then rest else cs
    | [] => []
  (Text.splitWhere s.isSlash inner).map
    (Percent.escape escapedInPath)

/- Read a path. A special scheme always has one. -/
def readPath (s : Scheme) (cs : List Char) : List Char :=
  if cs.isEmpty && !s.isSpecial then []
  else
    pathChars (walk [] (parts s cs))

end Url

------------------------------------------------------------
-- Whole URLs
------------------------------------------------------------

namespace Url

/- A character in front of a query or a fragment. -/
def endsPath (c : Char) : Bool :=
  c == '?' || c == '#'

/- Read the query and the fragment. -/
def readTail (s : Scheme) (cs : List Char) :
    Option (List Char) × Option (List Char) :=
  let (query, rest) :=
    match cs with
    | '?' :: rest =>
        (some (Percent.escape (escapedInQuery s)
          (rest.takeWhile (· != '#'))),
          rest.dropWhile (· != '#'))
    | _ => (none, cs)
  match rest with
  | '#' :: rest =>
      (query, some (Percent.escape escapedInFragment rest))
  | _ => (query, none)

/- A URL with the parts that follow its authority. -/
def complete
    (s : Scheme)
    (u : Url)
    (cs : List Char) : Url :=
  let (query, fragment) :=
    readTail s (cs.dropWhile fun c => !endsPath c)
  { u with
      path := readPath s (cs.takeWhile fun c => !endsPath c)
      query := query
      fragment := fragment }

/- A URL without an authority. -/
def bare (scheme : List Char) : Url :=
  { scheme, username := [], password := none, host := none
    port := none, path := [], query := none, fragment := none }

/- Read what follows the two slashes of a scheme. -/
def readSlashed
    (s : Scheme)
    (scheme cs : List Char) : Except UrlFault Url := do
  let region := cs.takeWhile fun c => !s.endsAuthority c
  let rest := cs.dropWhile fun c => !s.endsAuthority c
  let (u, left) ← readAuthority s scheme region rest.isEmpty
  .ok (complete s u (left ++ rest))

/- The host of a file on this machine. -/
def ownHost : Host := .name []

/- A first part that names a drive, with its colon. -/
def ofDrive : List (List Char) → Option (List (List Char))
| part :: rest =>
    if isDrive part then some ((part.take 1 ++ [':']) :: rest)
    else none
| [] => none

/- A path that begins with a single slash. -/
def singleSlash (path : List Char) : List Char :=
  '/' :: path.dropWhile (· == '/')

/-
  A file on a host. A path that begins with a drive belongs
  to no host.
-/
def fileOn
    (scheme : List Char)
    (host : Host)
    (cs : List Char) : Url :=
  let given := parts .file (cs.takeWhile fun c => !endsPath c)
  let (host, path) :=
    match ofDrive given with
    | some path => (ownHost, path)
    | none => (host, given)
  let (query, fragment) :=
    readTail .file (cs.dropWhile fun c => !endsPath c)
  { bare scheme with
      host := some host
      path := singleSlash (pathChars (walk [] path))
      query := query
      fragment := fragment }

/- The host of a file, which may be this machine itself. -/
def fileHost (cs : List Char) : Except UrlFault Host := do
  let host ← Host.ofDomain cs
  if host = .name "localhost".toList then .ok ownHost
  else .ok host

/- Read a URL of a file, whose host may be absent. -/
def readFile (scheme cs : List Char) : Except UrlFault Url :=
  match cs with
  | c :: d :: rest =>
      if Scheme.file.isSlash c && Scheme.file.isSlash d then
        let host :=
          rest.takeWhile fun c => !Scheme.file.endsAuthority c
        if host.isEmpty || isDrive host then
          .ok (fileOn scheme ownHost rest)
        else
          (fileHost host).map fun h =>
            fileOn scheme h (rest.drop host.length)
      else
        .ok (fileOn scheme ownHost cs)
  | _ => .ok (fileOn scheme ownHost cs)

/- A path that is not made of parts. -/
def readPlain (scheme cs : List Char) : Url :=
  let (query, fragment) :=
    readTail .other (cs.dropWhile fun c => !endsPath c)
  { bare scheme with
      path := Percent.escape Host.isControl
        (cs.takeWhile fun c => !endsPath c)
      query := query
      fragment := fragment }

/- Read a URL of a scheme that is not special. -/
def readOther (scheme cs : List Char) : Except UrlFault Url :=
  match cs with
  | '/' :: '/' :: rest => readSlashed .other scheme rest
  | '/' :: _ => .ok (complete .other (bare scheme) cs)
  | _ => .ok (readPlain scheme cs)

/- Read a URL. -/
def parse (cs : List Char) : Except UrlFault Url :=
  match splitScheme? (cleaned cs) with
  | none => .error .noScheme
  | some (scheme, rest) =>
      match Scheme.kind scheme with
      | .special port =>
          readSlashed (.special port) scheme
            (rest.dropWhile (Scheme.isSlash (.special port)))
      | .file => readFile scheme rest
      | .other => readOther scheme rest

/- Read a URL from a string. -/
def ofText (s : String) : Except UrlFault Url :=
  parse s.toList

end Url

end UrlShortener
