import UrlShortener.Text.Split

/-
  This file defines the path that the target of an HTTP
  request names, and the trimming of the slashes around it.

  Key definitions include:
    * `Target.path`
    * `Target.trimmed`
    * `Target.segments?`
-/

namespace UrlShortener

------------------------------------------------------------
-- Paths
------------------------------------------------------------

namespace Target

/- The part of a target in front of its query. -/
def endsPath (c : Char) : Bool :=
  c == '?' || c == '#'

/- The target without its query and fragment. -/
def bare (cs : List Char) : List Char :=
  cs.takeWhile fun c => !endsPath c

/- The path after the authority of an absolute target. -/
def afterAuthority (cs : List Char) : List Char :=
  match cs.dropWhile (· != '/') with
  | [] => ['/']
  | path => path

/-
  The path of a target. A target that is neither a path nor
  a whole URL is just a host, whose path is empty.
-/
def path (target : String) : List Char :=
  match bare target.toList with
  | '/' :: rest => '/' :: rest
  | ['*'] => ['*']
  | cs =>
      match Text.cutAt? "://".toList cs with
      | some (_, rest) => afterAuthority rest
      | none => []

end Target

------------------------------------------------------------
-- Slashes
------------------------------------------------------------

namespace Target

/- A character that is trimmed. -/
def isSlash (c : Char) : Bool := c == '/'

/- The path without the slashes around it. -/
def core (path : List Char) : List Char :=
  ((path.dropWhile isSlash).reverse.dropWhile isSlash).reverse

/-
  A path with the slashes at its end, and all but one at its
  start, trimmed. A path without any is left as it is.
-/
def trimmed (path : List Char) : List Char :=
  match path with
  | '/' :: '/' :: _ => '/' :: core path
  | _ =>
      if path.getLast? = some '/' then '/' :: core path
      else path

/- The segments of a path, after its first slash. -/
def segments? (path : List Char) : Option (List (List Char)) :=
  match path with
  | '/' :: rest => some (Text.split '/' rest)
  | _ => none

end Target

end UrlShortener
