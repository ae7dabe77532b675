/-
  This file defines Punycode, which writes any characters
  as letters, digits and hyphens: first the ASCII ones as
  they are, then the places and values of the others as
  numbers in a mixed base that adapts to their size.

  Key definitions include:
    * `Punycode.adapt`
    * `Punycode.encode`
    * `Punycode.decode?`
-/

namespace UrlShortener

------------------------------------------------------------
-- Digits and bases
------------------------------------------------------------

namespace Punycode

/- The digit of a value below 36. -/
def digit (n : Nat) : Char :=
  if n < 26 then Char.ofNat (97 + n) else Char.ofNat (22 + n)

/- The value of a digit of either letter case. -/
def value? (c : Char) : Option Nat :=
  if 'a' ≤ c ∧ c ≤ 'z' then some (c.toNat - 97)
  else if 'A' ≤ c ∧ c ≤ 'Z' then some (c.toNat - 65)
  else if '0' ≤ c ∧ c ≤ '9' then some (c.toNat - 22)
  else none

/- The threshold at a position, from 1 to 26. -/
def threshold (k bias : Nat) : Nat :=
  min 26 (max 1 (k - bias))

/- Divide until a number is small; count the steps. -/
def settle : Nat → Nat → Nat → Nat × Nat
| 0, delta, k => (delta, k)
| fuel + 1, delta, k =>
    if 455 < delta then settle fuel (delta / 35) (k + 36)
    else (delta, k)

/- The bias after a number was written. -/
def adapt (delta count : Nat) (first : Bool) : Nat :=
  let scaled := if first then delta / 700 else delta / 2
  let (rest, k) :=
    settle (scaled + 1) (scaled + scaled / count) 0
  k + 36 * rest / (rest + 38)

end Punycode

------------------------------------------------------------
-- Encoding
------------------------------------------------------------

namespace Punycode

/- A number in the base of a bias. -/
def number : Nat → Nat → Nat → Nat → List Char
| 0, _, _, _ => []
| fuel + 1, bias, k, q =>
    let t := threshold k bias
    if q < t then [digit q]
    else
      digit (t + (q - t) % (36 - t))
        :: number fuel bias (k + 36) ((q - t) / (36 - t))

/- The state of an encoding under way. -/
structure Writer where
  written : List Char
  delta : Nat
  bias : Nat
  handled : Nat
deriving DecidableEq, Repr

/- Take one character of the text at the value `n`. -/
def Writer.take
    (basic n : Nat)
    (w : Writer)
    (c : Nat) : Writer :=
  if c < n then { w with delta := w.delta + 1 }
  else if c = n then
    { written :=
        w.written ++ number (w.delta + 1) w.bias 36 w.delta
      delta := 0
      bias :=
        adapt w.delta (w.handled + 1) (w.handled == basic)
      handled := w.handled + 1 }
  else w

/- The least value from `n` on. -/
def least? (n : Nat) (cs : List Nat) : Option Nat :=
  (cs.filter (n ≤ ·)).min?

/-
  Handle the values of the text in ascending order. The
  fuel bounds the number of distinct values.
-/
def encodeFrom :
    Nat → Nat → Nat → List Nat → Writer → List Char
| 0, _, _, _, w => w.written
| fuel + 1, basic, n, cs, w =>
    match least? n cs with
    | none => w.written
    | some m =>
        let moved :=
          { w with
              delta := w.delta + (m - n) * (w.handled + 1) }
        let after := cs.foldl (Writer.take basic m) moved
        encodeFrom fuel basic (m + 1) cs
          { after with delta := after.delta + 1 }

/- Encode a text. -/
def encode (cs : List Char) : List Char :=
  let basic := cs.filter (·.toNat < 0x80)
  let lead := if basic.isEmpty then [] else basic ++ ['-']
  encodeFrom cs.length basic.length 0x80
    (cs.map Char.toNat) ⟨lead, 0, 72, basic.length⟩

end Punycode

------------------------------------------------------------
-- Decoding
------------------------------------------------------------

namespace Punycode

/- A number in the base of a bias, and the digits after it. -/
def readNumber? (bias : Nat) :
    Nat → Nat → Nat → List Char → Option (Nat × List Char)
| _, _, _, [] => none
| k, weight, i, c :: rest => do
    let d ← value? c
    let t := threshold k bias
    let i := i + d * weight
    if d < t then some (i, rest)
    else readNumber? bias (k + 36) (weight * (36 - t)) i rest

/- A value that is a character outside ASCII. -/
def character? (n : Nat) : Option Char :=
  if n < 0x80 ∨ 0x10FFFF < n
      ∨ (0xD800 ≤ n ∧ n ≤ 0xDFFF) then none
  else some (Char.ofNat n)

/-
  Put the characters of the numbers into the text. The fuel
  bounds the number of characters.
-/
def decodeFrom? :
    Nat → Nat → Nat → Nat → List Char → List Char →
    Option (List Char)
| _, _, _, _, text, [] => some text
| 0, _, _, _, _, _ => none
| fuel + 1, n, i, bias, text, digits => do
    let (j, rest) ← readNumber? bias 36 1 i digits
    let size := text.length + 1
    let m := n + j / size
    let c ← character? m
    let place := j % size
    decodeFrom? fuel m (place + 1)
      (adapt (j - i) size (i == 0 && n == 0x80))
      (text.take place ++ c :: text.drop place) rest

/-
  Decode a text, if it is the encoding of one. The last
  hyphen ends the ASCII characters, if there are any.
-/
def decode? (cs : List Char) : Option (List Char) :=
  let tail := (cs.reverse.takeWhile (· != '-')).reverse
  let basic := cs.take (cs.length - tail.length - 1)
  let digits := if basic.isEmpty then cs else tail
  decodeFrom? (digits.length + 1) 0x80 0 72 basic digits

end Punycode

end UrlShortener
