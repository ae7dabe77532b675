import UrlShortener.Number.Signed

/-
  This file defines a counting server, as far as it counts:
  texts under keys, of which those that are whole numbers of
  64 bits can be incremented.

  Key definitions include:
    * `Server`
    * `Server.get?`
    * `Server.incrementBy`
-/

namespace UrlShortener

------------------------------------------------------------
-- The server
------------------------------------------------------------

/- The texts under the keys that are set. -/
structure Server where
  texts : List (String × String)
deriving DecidableEq, Repr

namespace Server

/- The server without keys. -/
def empty : Server := ⟨[]⟩

/- The text under a key. -/
def get? (s : Server) (key : String) : Option String :=
  (s.texts.find? fun t => t.1 == key).map Prod.snd

/- Set a key in a list that may know it. -/
def put (key text : String) :
    List (String × String) → List (String × String)
| [] => [(key, text)]
| (name, old) :: rest =>
    if name = key then (name, text) :: rest
    else (name, old) :: put key text rest

/- Set the text under a key. -/
def set (s : Server) (key text : String) : Server :=
  ⟨put key text s.texts⟩

end Server

------------------------------------------------------------
-- Counting
------------------------------------------------------------

/- Why a key cannot be incremented. -/
inductive ServerFault where
| notWhole
| overflow
deriving DecidableEq, Repr

namespace ServerFault

/- The wording of a fault. -/
def message : ServerFault → String
| .notWhole =>
    "ResponseError: value is not an integer or out of range"
| .overflow =>
    "ResponseError: increment or decrement would overflow"

end ServerFault

namespace Server

/- The number under a key; a key that is not set has zero. -/
def number? (s : Server) (key : String) : Option Int :=
  match s.get? key with
  | none => some 0
  | some text => Signed.read? text.toList

/- Whether a number has 64 bits with its sign. -/
def fits (n : Int) : Bool :=
  -9223372036854775808 ≤ n && n ≤ 9223372036854775807

/- Add to the number under a key. -/
def incrementBy
    (s : Server)
    (key : String)
    (amount : Int) : Except ServerFault Int × Server :=
  match s.number? key with
  | none => (.error .notWhole, s)
  | some n =>
      if fits (n + amount) then
        (.ok (n + amount), s.set key (toString (n + amount)))
      else
        (.error .overflow, s)

end Server

end UrlShortener
