import UrlShortener.Text.Hex
import UrlShortener.Text.Split

/-
  This file defines network addresses: the reading of their
  texts and the texts they are written as.

  Key definitions include:
    * `Ipv4.number?`
    * `Ipv4.endsInNumber`
    * `Ipv4.read?`
    * `Ipv4.chars`
    * `Ipv6.read?`
    * `Ipv6.chars`
-/

namespace UrlShortener

------------------------------------------------------------
-- Addresses of 32 bits
------------------------------------------------------------

namespace Ipv4

/- The largest address. -/
def maxAddress : Nat := 4294967295

/- A number in a base, if all characters are its digits. -/
def inBase? (base : Nat) (cs : List Char) : Option Nat :=
  cs.foldl
    (fun n c =>
      match n, Hex.value? c with
      | some k, some d =>
          if d < base then some (k * base + d) else none
      | _, _ => none)
    (some 0)

/-
  A number of an address: hexadecimal after `0x`, octal
  after a zero, decimal otherwise; none if it is no number.
  Digits may be absent after the mark of the base.
-/
def number? : List Char → Option Nat
| [] => none
| '0' :: 'x' :: rest => inBase? 16 rest
| '0' :: 'X' :: rest => inBase? 16 rest
| '0' :: d :: rest => inBase? 8 (d :: rest)
| cs => inBase? 10 cs

/- The parts of a host name, one empty part at its end cut. -/
def parts (cs : List Char) : List (List Char) :=
  let all := Text.split '.' cs
  if all.getLast? = some [] then all.dropLast else all

/- A text that consists of decimal digits. -/
def isDigits (cs : List Char) : Bool :=
  !cs.isEmpty && cs.all Char.isDigit

/- A host name whose last part is a number is an address. -/
def endsInNumber (cs : List Char) : Bool :=
  let all := Text.split '.' cs
  let last :=
    if all.getLast? = some [] then all.dropLast.getLast?
    else all.getLast?
  match last with
  | none => false
  | some part => isDigits part || (number? part).isSome

/-
  Put the numbers of an address together: all but the last
  are bytes, and the last fills the bytes that remain.
-/
def assemble? (ns : List Nat) : Option Nat :=
  match ns.getLast? with
  | none => none
  | some last =>
      let bytes := ns.dropLast
      if bytes.length ≤ 3
          && last < Nat.pow 256 (4 - bytes.length)
          && bytes.all (· < 256) then
        some (bytes.foldl (fun n b => n * 256 + b) 0
          * Nat.pow 256 (4 - bytes.length) + last)
      else
        none

/- Read an address. -/
def read? (cs : List Char) : Option Nat := do
  let ns ← (parts cs).mapM number?
  if ns.all (· ≤ maxAddress) then assemble? ns else none

/- The text of an address. -/
def chars (address : Nat) : List Char :=
  Text.join ['.']
    ([16777216, 65536, 256, 1].map fun unit =>
      (toString (address / unit % 256)).toList)

end Ipv4

------------------------------------------------------------
-- Addresses of 128 bits
------------------------------------------------------------

namespace Ipv6

/-
  The groups read so far, and how many of them stand in
  front of the double colon once one was read.
-/
structure Draft where
  groups : List Nat
  gap : Option Nat
deriving DecidableEq, Repr

namespace Draft

/- The places taken: a double colon takes one. -/
def places (d : Draft) : Nat :=
  d.groups.length + (if d.gap.isSome then 1 else 0)

/- The address of a finished draft. -/
def finish? (d : Draft) : Option (List Nat) :=
  match d.gap with
  | none => if d.groups.length = 8 then some d.groups else none
  | some front =>
      if d.groups.length < 8 then
        some (d.groups.take front
          ++ List.replicate (8 - d.groups.length) 0
          ++ d.groups.drop front)
      else
        none

end Draft

/- A byte in decimal, without a zero in front. -/
def byte? (cs : List Char) : Option Nat :=
  match cs with
  | ['0'] => some 0
  | '0' :: _ => none
  | _ =>
      if Ipv4.isDigits cs then
        (Ipv4.inBase? 10 cs).bind fun n =>
          if n < 256 then some n else none
      else
        none

/- The two groups of a dotted address at the end. -/
def dotted? (cs : List Char) : Option (List Nat) := do
  let bytes ← (Text.split '.' cs).mapM byte?
  match bytes with
  | [a, b, c, d] => some [a * 256 + b, c * 256 + d]
  | _ => none

/- The value of a group, and the characters after it. -/
def group : Nat → Nat → List Char → Nat × List Char
| 0, n, cs => (n, cs)
| _, n, [] => (n, [])
| most + 1, n, c :: rest =>
    match Hex.value? c with
    | some d => group most (16 * n + d) rest
    | none => (n, c :: rest)

/-
  Read the groups of an address onto a draft. The fuel
  bounds the number of groups and double colons.
-/
def readFrom? : Nat → Draft → List Char → Option Draft
| _, d, [] => some d
| 0, _, _ => none
| fuel + 1, d, c :: rest =>
    if 8 ≤ d.places then none
    else if c = ':' then
      if d.gap.isSome then none
      else
        readFrom? fuel
          { d with gap := some d.groups.length } rest
    else
      let (n, after) := group 4 0 (c :: rest)
      match after with
      | [] => some { d with groups := d.groups ++ [n] }
      | '.' :: _ =>
          if c = '.' || 6 < d.places then none
          else do
            let pair ← dotted? (c :: rest)
            some { d with groups := d.groups ++ pair }
      | ':' :: tail =>
          if tail.isEmpty then none
          else
            readFrom? fuel
              { d with groups := d.groups ++ [n] } tail
      | _ => none

/- Read an address, given without its brackets. -/
def read? (cs : List Char) : Option (List Nat) :=
  let draft? :=
    match cs with
    | ':' :: ':' :: rest =>
        readFrom? (cs.length + 1) ⟨[], some 0⟩ rest
    | ':' :: _ => none
    | [] => none
    | _ => readFrom? (cs.length + 1) ⟨[], none⟩ cs
  draft?.bind Draft.finish?

/- The number of zeros in front. -/
def zeros (groups : List Nat) : Nat :=
  (groups.takeWhile (· == 0)).length

/-
  The place and length of the longest run of zeros; the
  first one of equal runs.
-/
def longestZeros (groups : List Nat) : Nat × Nat :=
  (List.range groups.length).foldl
    (fun best i =>
      let length := zeros (groups.drop i)
      if best.2 < length then (i, length) else best)
    (0, 0)

/- Groups in hexadecimal with colons between them. -/
def colons (groups : List Nat) : List Char :=
  Text.join [':'] (groups.map Hex.lower)

/-
  The text of an address: the longest run of two or more
  zeros is written as a double colon.
-/
def chars (groups : List Nat) : List Char :=
  let (start, length) := longestZeros groups
  if length < 2 then colons groups
  else
    colons (groups.take start) ++ ':' :: ':' ::
      colons (groups.drop (start + length))

end Ipv6

end UrlShortener
