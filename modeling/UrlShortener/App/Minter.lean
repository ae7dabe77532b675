import UrlShortener.Link.Mint

/-
  This file defines where the service gets its codes from:
  they are minted from random bytes, or handed out from a
  list of draws.

  Key definitions include:
    * `Draw`
    * `Minter`
    * `Minter.draw`
-/

namespace UrlShortener

------------------------------------------------------------
-- Minters
------------------------------------------------------------

/- One draw of a list: a code, a random code or a fault. -/
inductive Draw where
| given (code : String)
| random
| failed (reason : String)
deriving DecidableEq, Repr

/- Random codes, or the draws of a list, which may run out. -/
inductive Minter where
| random
| listed (draws : List Draw)
deriving DecidableEq, Repr

namespace Minter

/- The bytes a random source gives at a draw. -/
def buffer
    (bytes : Nat → UInt8)
    (length : Nat) : List UInt8 :=
  (List.range length).map bytes

/- A random code. -/
def mintRandom
    (bytes : Nat → UInt8)
    (length : Nat) : Except MintFault String :=
  Mint.mint length (buffer bytes length)

/- Draw a code of a length. -/
def draw
    (m : Minter)
    (bytes : Nat → UInt8)
    (length : Nat) : Except MintFault String × Minter :=
  match m with
  | .random => (mintRandom bytes length, .random)
  | .listed [] =>
      (.error (.randomSource "script is empty"), .listed [])
  | .listed (.given code :: rest) => (.ok code, .listed rest)
  | .listed (.random :: rest) =>
      (mintRandom bytes length, .listed rest)
  | .listed (.failed reason :: rest) =>
      (.error (.randomSource reason), .listed rest)

/- Add draws to a list. -/
def extend (m : Minter) (draws : List Draw) : Minter :=
  match m with
  | .random => .random
  | .listed old => .listed (old ++ draws)

end Minter

end UrlShortener
