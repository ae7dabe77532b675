/-
  This file defines UTF-8: the bytes of a text, and the
  strict reading of bytes as text, which tells where the
  bytes stop being UTF-8.

  Key definitions include:
    * `Utf8.encode`
    * `Utf8.first?`
    * `Utf8.decode`
    * `Utf8.decode?`
    * `Utf8.text?`
-/

namespace UrlShortener

------------------------------------------------------------
-- Encoding
------------------------------------------------------------

namespace Utf8

/- The bytes of a text. -/
def encode (cs : List Char) : List UInt8 :=
  cs.flatMap String.utf8EncodeChar

/- The bytes of a string. -/
def bytes (s : String) : List UInt8 :=
  s.toUTF8.data.toList

end Utf8

------------------------------------------------------------
-- Decoding
------------------------------------------------------------

namespace Utf8

/- The six payload bits of a continuation byte. -/
def continuation? (b : UInt8) : Option Nat :=
  if 0x80 ≤ b ∧ b ≤ 0xBF then some (b.toNat - 0x80) else none

/-
  A code point with the least value its length may stand
  for; surrogates and values past the last plane are none.
-/
def scalar? (least n : Nat) : Option Char :=
  if n < least ∨ (0xD800 ≤ n ∧ n ≤ 0xDFFF) ∨ 0x10FFFF < n then
    none
  else
    some (Char.ofNat n)

/-
  The first character of a byte text and how many bytes it
  takes, if the bytes start with one.
-/
def first? : List UInt8 → Option (Char × Nat)
| [] => none
| b :: rest =>
    if b < 0x80 then
      some (Char.ofNat b.toNat, 1)
    else if 0xC2 ≤ b ∧ b ≤ 0xDF then
      match rest with
      | b₁ :: _ => do
          let x ← continuation? b₁
          let c ← scalar? 0x80 ((b.toNat - 0xC0) * 64 + x)
          some (c, 2)
      | _ => none
    else if 0xE0 ≤ b ∧ b ≤ 0xEF then
      match rest with
      | b₁ :: b₂ :: _ => do
          let x ← continuation? b₁
          let y ← continuation? b₂
          let c ← scalar? 0x800
            ((b.toNat - 0xE0) * 4096 + x * 64 + y)
          some (c, 3)
      | _ => none
    else if 0xF0 ≤ b ∧ b ≤ 0xF4 then
      match rest with
      | b₁ :: b₂ :: b₃ :: _ => do
          let x ← continuation? b₁
          let y ← continuation? b₂
          let z ← continuation? b₃
          let c ← scalar? 0x10000
            ((b.toNat - 0xF0) * 262144
              + x * 4096 + y * 64 + z)
          some (c, 4)
      | _ => none
    else
      none

/-
  Read bytes as text. On failure the answer is the number
  of bytes in front of the first one that fits nowhere. The
  fuel bounds the number of characters.
-/
def decodeFrom :
    Nat → Nat → List Char → List UInt8 →
    Except Nat (List Char)
| _, _, done, [] => .ok done.reverse
| 0, i, _, _ => .error i
| fuel + 1, i, done, b :: rest =>
    match first? (b :: rest) with
    | none => .error i
    | some (c, n) =>
        decodeFrom fuel (i + n) (c :: done)
          ((b :: rest).drop n)

/- Read bytes as text, or tell where they stop being UTF-8. -/
def decode (bs : List UInt8) : Except Nat (List Char) :=
  decodeFrom bs.length 0 [] bs

/- Read bytes as text. -/
def decode? (bs : List UInt8) : Option (List Char) :=
  (decode bs).toOption

/- Read bytes as a string. -/
def text? (bs : List UInt8) : Option String :=
  (decode? bs).map String.ofList

/-
  Read bytes as text, with the replacement character for
  every byte that fits nowhere.
-/
def decodeLossy : Nat → List UInt8 → List Char
| _, [] => []
| 0, _ => []
| fuel + 1, b :: rest =>
    match first? (b :: rest) with
    | none => Char.ofNat 0xFFFD :: decodeLossy fuel rest
    | some (c, n) =>
        c :: decodeLossy fuel ((b :: rest).drop n)

end Utf8

end UrlShortener
