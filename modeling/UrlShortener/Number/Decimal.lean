import UrlShortener.Number.Binary

/-
  This file defines the value of a decimal number in a JSON
  text as a binary number, and the text of that value.

  The value is computed in one rounded step for each
  factor, so it need not be the nearest binary number.

  Key definitions include:
    * `Decimal.value?`
    * `Decimal.Style`
    * `Decimal.text`
-/

namespace UrlShortener

------------------------------------------------------------
-- Values
------------------------------------------------------------

namespace Decimal

/- The largest power of ten that is a binary number. -/
def maxPower : Nat := 308

/- A power of ten, rounded. -/
def power (k : Nat) : Binary :=
  (Binary.round? (Nat.pow 10 k) 1).getD Binary.zero

/-
  The value of `significand * 10 ^ e` for an exponent below
  zero: whole steps of the largest power, then the rest.
-/
def shrink : Nat → Binary → Nat → Option Binary
| 0, f, _ => some f
| fuel + 1, f, k =>
    if k ≤ maxPower then f.div? (power k)
    else if f.mantissa = 0 then some f
    else do
      let f' ← f.div? (power maxPower)
      shrink fuel f' (k - maxPower)

/-
  The value of a decimal, or none when it is too large.
-/
def value? (significand : Nat) (e : Int) : Option Binary := do
  let f ← Binary.round? significand 1
  if 0 ≤ e then
    if e.toNat ≤ maxPower then f.mul? (power e.toNat)
    else if f.mantissa = 0 then some f
    else none
  else
    shrink 5 f (-e).toNat

end Decimal

------------------------------------------------------------
-- Text
------------------------------------------------------------

namespace Decimal

/-
  How a number is written: positionally while the point
  lies between two bounds, else with an exponent.
-/
structure Style where
  pointAbove : Int
  pointBelow : Int
  plusSign : Bool
deriving DecidableEq, Repr

/-
  Up to sixteen digits in front of the point, up to four
  zeros after it, and a sign on every exponent.
-/
def json : Style := ⟨16, -5, true⟩

/- The exponent of a number, with its letter. -/
def exponentText (style : Style) (e : Int) : List Char :=
  let digits := (toString e.natAbs).toList
  if e < 0 then 'e' :: '-' :: digits
  else if style.plusSign then 'e' :: '+' :: digits
  else 'e' :: digits

/- The text of a decimal `n * 10 ^ e`. -/
def layout (style : Style) (n : Nat) (e : Int) : List Char :=
  let digits := (toString n).toList
  let point : Int := digits.length + e
  if 0 ≤ e ∧ point ≤ style.pointAbove then
    digits ++ List.replicate e.toNat '0' ++ ['.', '0']
  else if 0 < point ∧ point ≤ style.pointAbove then
    digits.take point.toNat ++ '.' :: digits.drop point.toNat
  else if style.pointBelow < point ∧ point ≤ 0 then
    '0' :: '.' :: List.replicate (-point).toNat '0' ++ digits
  else
    match digits with
    | [d] => d :: exponentText style (point - 1)
    | d :: rest =>
        d :: '.' :: rest ++ exponentText style (point - 1)
    | [] => []

/- The text of a number. -/
def text (style : Style) (b : Binary) : List Char :=
  if b.mantissa = 0 then ['0', '.', '0']
  else
    let (n, e) := b.shortest
    layout style n e

end Decimal

end UrlShortener
