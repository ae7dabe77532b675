/-
  This file defines the reading and the writing of
  hexadecimal digits.

  Key definitions include:
    * `Hex.value?`
    * `Hex.upperDigit`
    * `Hex.lowerDigit`
    * `Hex.lower`
-/

namespace UrlShortener

------------------------------------------------------------
-- Digits
------------------------------------------------------------

namespace Hex

/- The value of a hexadecimal digit of either letter case. -/
def value? (c : Char) : Option Nat :=
  if '0' ≤ c ∧ c ≤ '9' then some (c.toNat - 48)
  else if 'a' ≤ c ∧ c ≤ 'f' then some (c.toNat - 87)
  else if 'A' ≤ c ∧ c ≤ 'F' then some (c.toNat - 55)
  else none

/- The digit of a value below 16, in upper case. -/
def upperDigit (n : Nat) : Char :=
  if n < 10 then Char.ofNat (48 + n) else Char.ofNat (55 + n)

/- The digit of a value below 16, in lower case. -/
def lowerDigit (n : Nat) : Char :=
  if n < 10 then Char.ofNat (48 + n) else Char.ofNat (87 + n)

/- A number in lower-case hexadecimal, without leading zeros. -/
def lower (n : Nat) : List Char :=
  Nat.toDigits 16 n

/- Read a hexadecimal number, such as a code point. -/
def number? (cs : List Char) : Option Nat :=
  match cs with
  | [] => none
  | _ =>
      cs.foldl
        (fun n c =>
          match n, value? c with
          | some k, some d => some (16 * k + d)
          | _, _ => none)
        (some 0)

end Hex

end UrlShortener
