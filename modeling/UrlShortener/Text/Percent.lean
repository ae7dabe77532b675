import UrlShortener.Text.Hex
import UrlShortener.Text.Utf8

/-
  This file defines percent-encoding: a character that may
  not stand for itself is written as its UTF-8 bytes, each
  as a percent sign and two upper-case hexadecimal digits.

  Key definitions include:
    * `Percent.escape`
    * `Percent.unescape`
    * `Percent.decode?`
-/

namespace UrlShortener

------------------------------------------------------------
-- Writing
------------------------------------------------------------

namespace Percent

/- One byte as a percent sign and two digits. -/
def escapeByte (b : UInt8) : List Char :=
  ['%', Hex.upperDigit (b.toNat / 16),
    Hex.upperDigit (b.toNat % 16)]

/-
  Escape the characters of a set. Characters outside ASCII
  are always escaped.
-/
def escape
    (inSet : Char → Bool)
    (cs : List Char) : List Char :=
  cs.flatMap fun c =>
    if 0x80 ≤ c.toNat || inSet c then
      (String.utf8EncodeChar c).flatMap escapeByte
    else
      [c]

end Percent

------------------------------------------------------------
-- Reading
------------------------------------------------------------

namespace Percent

/- The value of a byte that is a hexadecimal digit. -/
def digit? (b : UInt8) : Option Nat :=
  Hex.value? (Char.ofNat b.toNat)

/- The byte that three bytes escape, if they do. -/
def escaped? (b h l : UInt8) : Option UInt8 :=
  if b = 0x25 then do
    let x ← digit? h
    let y ← digit? l
    some (UInt8.ofNat (16 * x + y))
  else
    none

/-
  Undo the escapes. A percent sign without two digits after
  it stands for itself.
-/
def unescape : List UInt8 → List UInt8
| [] => []
| [b] => [b]
| [b, c] => [b, c]
| b :: h :: l :: tail =>
    match escaped? b h l with
    | some x => x :: unescape tail
    | none => b :: unescape (h :: l :: tail)

/-
  Undo the escapes of a text, if the result is UTF-8.
-/
def decode? (cs : List Char) : Option (List Char) :=
  Utf8.decode? (unescape (Utf8.encode cs))

end Percent

end UrlShortener
