/-
  This file defines the minting of short codes: random
  bytes are regrouped into six-bit digits, each digit is a
  letter or a digit of base64, and the two symbols of that
  alphabet that are neither are replaced by letters.

  Key definitions include:
    * `MintFault`
    * `MintFault.message`
    * `Mint.sextets`
    * `Mint.symbol`
    * `Mint.code`
    * `Mint.mint`
-/

namespace UrlShortener

------------------------------------------------------------
-- Faults
------------------------------------------------------------

/- Why no code was minted. -/
inductive MintFault where
| randomSource (reason : String)
| zeroLength
deriving DecidableEq, Repr

namespace MintFault

/- The wording of a fault. -/
def message : MintFault → String
| .randomSource reason =>
    "random source failure: " ++ reason
| .zeroLength => "requested code length must be at least 1"

end MintFault

------------------------------------------------------------
-- Digits of six bits
------------------------------------------------------------

namespace Mint

/-
  The six-bit digits of bytes, from the highest bit down. A
  last digit is filled up with zero bits.
-/
def sextets : List UInt8 → List Nat
| [] => []
| [a] => [a.toNat / 4, a.toNat % 4 * 16]
| [a, b] =>
    [a.toNat / 4,
      a.toNat % 4 * 16 + b.toNat / 16,
      b.toNat % 16 * 4]
| a :: b :: c :: rest =>
    a.toNat / 4
      :: (a.toNat % 4 * 16 + b.toNat / 16)
      :: (b.toNat % 16 * 4 + c.toNat / 64)
      :: c.toNat % 64
      :: sextets rest

/- The base64 symbol of a digit, safe in URLs. -/
def symbol (n : Nat) : Char :=
  if n < 26 then Char.ofNat (65 + n)
  else if n < 52 then Char.ofNat (71 + n)
  else if n < 62 then Char.ofNat (n - 4)
  else if n = 62 then '-'
  else '_'

/- The letter that takes the place of a symbol. -/
def plain (c : Char) : Char :=
  if c = '-' then 'B' else if c = '_' then 'A' else c

end Mint

------------------------------------------------------------
-- Codes
------------------------------------------------------------

namespace Mint

/- The code of a given length that random bytes give. -/
def code (length : Nat) (bytes : List UInt8) : List Char :=
  ((sextets bytes).take length).map fun n => plain (symbol n)

/-
  Mint a code from as many random bytes as it is to have
  characters.
-/
def mint
    (length : Nat)
    (bytes : List UInt8) : Except MintFault String :=
  if length = 0 then .error .zeroLength
  else .ok (String.ofList (code length bytes))

end Mint

end UrlShortener
