/-
  This file defines the reading of unsigned 64-bit numbers
  from decimal text, with the reason when there is none.

  Key definitions include:
    * `Unsigned.Fault`
    * `Unsigned.Fault.message`
    * `Unsigned.digits`
    * `Unsigned.read`
-/

namespace UrlShortener

------------------------------------------------------------
-- Faults
------------------------------------------------------------

namespace Unsigned

/- The largest unsigned 64-bit number. -/
def maxWord : Nat := 18446744073709551615

/- Why a text is not an unsigned number. -/
inductive Fault where
| empty
| invalidDigit
| tooLarge
deriving DecidableEq, Repr

namespace Fault

/- The wording of a fault. -/
def message : Fault → String
| .empty => "cannot parse integer from empty string"
| .invalidDigit => "invalid digit found in string"
| .tooLarge => "number too large to fit in target type"

end Fault

end Unsigned

------------------------------------------------------------
-- Reading
------------------------------------------------------------

namespace Unsigned

/-
  Read digits from left to right onto a number already
  read. A character that is no digit is found before the
  overflow it would add to.
-/
def digits : Nat → List Char → Except Fault Nat
| n, [] => .ok n
| n, c :: rest =>
    if c.isDigit then
      let next := 10 * n + (c.toNat - 48)
      if next ≤ maxWord then digits next rest
      else .error .tooLarge
    else
      .error .invalidDigit

/-
  Read a number: an optional plus sign and one or more
  digits. A sign alone is an invalid digit.
-/
def read : List Char → Except Fault Nat
| [] => .error .empty
| ['+'] => .error .invalidDigit
| '+' :: rest => digits 0 rest
| cs => digits 0 cs

end Unsigned

end UrlShortener
