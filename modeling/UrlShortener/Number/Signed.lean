import UrlShortener.Number.Unsigned

/-
  This file defines the reading of whole numbers of 64 bits
  with a sign.

  Key definitions include:
    * `Signed.read?`
-/

namespace UrlShortener

------------------------------------------------------------
-- Reading
------------------------------------------------------------

namespace Signed

/- The largest number; the least is one further from zero. -/
def maxNumber : Nat := 9223372036854775807

/- One or more digits. -/
def magnitude? : List Char → Option Nat
| [] => none
| cs => (Unsigned.digits 0 cs).toOption

/- Read a number with an optional sign. -/
def read? : List Char → Option Int
| '-' :: rest => do
    let n ← magnitude? rest
    if n ≤ maxNumber + 1 then some (-n) else none
| '+' :: rest => do
    let n ← magnitude? rest
    if n ≤ maxNumber then some n else none
| cs => do
    let n ← magnitude? cs
    if n ≤ maxNumber then some n else none

end Signed

end UrlShortener
