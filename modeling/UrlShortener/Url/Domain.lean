import UrlShortener.Unicode.Direction
import UrlShortener.Unicode.MappingTable
import UrlShortener.Url.Address
import UrlShortener.Url.Punycode

/-
  This file defines the ASCII form of domain names: their
  characters are mapped and normalized, and each label that
  is not ASCII is checked and encoded.

  Key definitions include:
    * `Domain.mapChar?`
    * `Domain.mapped?`
    * `Domain.isForbidden`
    * `Domain.readable?`
    * `Domain.written?`
    * `Domain.toAscii?`
-/

namespace UrlShortener

------------------------------------------------------------
-- Mapping
------------------------------------------------------------

namespace Domain

/- The tables, read once. -/
def mapping : List Unicode.Row :=
  Unicode.rows Unicode.mappingRows
def vanishing : List Unicode.CharRange :=
  Unicode.ranges Unicode.vanishingRows
def refused : List Unicode.CharRange :=
  Unicode.ranges Unicode.refusedRows

/- What a row says of a character it holds. -/
def targets (row : Unicode.Row) (c : Char) : List Char :=
  match row.targets with
  | [n] => [Char.ofNat (n + row.range.offset c.toNat)]
  | ns => ns.map Char.ofNat

/- What a character maps to, unless it is refused. -/
def mapChar? (c : Char) : Option (List Char) :=
  if c.toNat < 0x80 then some [c.toLower]
  else
    match mapping.find? (fun r => r.range.holds c.toNat) with
    | some row => some (targets row c)
    | none =>
        if Unicode.isIn vanishing c then some []
        else if Unicode.isIn refused c then none
        else some [c]

/- A character that maps to itself. -/
def isStable (c : Char) : Bool :=
  mapChar? c == some [c]

/- A name with its characters mapped, in normal form. -/
def mapped? (cs : List Char) : Option (List Char) :=
  (cs.mapM mapChar?).map fun parts =>
    Unicode.normalize parts.flatten

end Domain

------------------------------------------------------------
-- Labels
------------------------------------------------------------

namespace Domain

/- The ASCII characters no domain name may hold. -/
def isForbidden (c : Char) : Bool :=
  c.toNat ≤ 0x20 || c.toNat = 0x7F
    || "%#/:<>?@[\\]^|".toList.contains c

/- The mark in front of an encoded label. -/
def encodedMark : List Char := ['x', 'n', '-', '-']

/- The most characters of a label that is not ASCII. -/
def maxReadable : Nat := 1000

/- The most characters after the mark of an encoded label. -/
def maxEncoded : Nat := 2000

/- A text of ASCII characters. -/
def isAscii (cs : List Char) : Bool :=
  cs.all (·.toNat < 0x80)

/- A text that an encoded label may stand for. -/
def isEncodable (cs : List Char) : Bool :=
  !isAscii cs && cs.all isStable
    && Unicode.normalize cs == cs

/- The text of an encoded label, after its mark. -/
def decoded? (digits : List Char) : Option (List Char) :=
  if maxEncoded < digits.length then none
  else (Punycode.decode? digits).filter isEncodable

/-
  A label in its readable form: one that is marked as
  encoded has to decode to a text in normal form that is
  not ASCII.
-/
def readable? (label : List Char) : Option (List Char) :=
  if encodedMark.isPrefixOf label then
    decoded? (label.drop encodedMark.length)
  else
    some label

/- The rules for a readable label. -/
def isWellFormed (label : List Char) : Bool :=
  isAscii label
    || ((match label with
        | c :: _ => !Unicode.isMark c
        | [] => true)
      && Unicode.joinersFit [] label)

/- A readable label as ASCII. -/
def written? (label : List Char) : Option (List Char) :=
  if isAscii label then some label
  else if maxReadable < label.length then none
  else some (encodedMark ++ Punycode.encode label)

end Domain

------------------------------------------------------------
-- Names
------------------------------------------------------------

namespace Domain

/-
  The ASCII form of a domain name, if it has one. In a name
  with a right-to-left label every label has to fit.
-/
def toAscii? (cs : List Char) : Option (List Char) := do
  let name ← mapped? cs
  let labels ← (Text.split '.' name).mapM readable?
  let bidirectional := labels.any Unicode.isRightToLeft
  if !labels.all isWellFormed then none
  else if bidirectional
      && !labels.all Unicode.directionFits then none
  else if labels.any (·.any isForbidden) then none
  else do
    let written ← labels.mapM written?
    some (Text.join ['.'] written)

end Domain

end UrlShortener
