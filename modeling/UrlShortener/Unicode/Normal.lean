import UrlShortener.Unicode.CompositionTable
import UrlShortener.Unicode.Rows

/-
  This file defines the composed normal form of texts: all
  characters decomposed, marks put in the order of their
  combining classes, and pairs composed again.

  Key definitions include:
    * `Unicode.combiningClass`
    * `Unicode.decompose`
    * `Unicode.orderMarks`
    * `Unicode.compose?`
    * `Unicode.compose`
    * `Unicode.normalize`
-/

namespace UrlShortener

------------------------------------------------------------
-- Tables
------------------------------------------------------------

namespace Unicode

/- The full decompositions, by character. -/
def decompositions : List (Nat × List Nat) :=
  (rows decompositionRows).map fun r =>
    (r.range.first, r.targets)

/- The composed characters with their pairs. -/
def compositions : List (Nat × List Nat) :=
  (rows compositionRows).map fun r =>
    (r.range.first, r.targets)

/- The ranges with a combining class other than zero. -/
def classes : List (CharRange × Nat) :=
  (rows classRows).map fun r => (r.range, r.decimal)

/- The combining class of a character. -/
def combiningClass (n : Nat) : Nat :=
  ((classes.find? fun r => r.1.holds n).map Prod.snd).getD 0

end Unicode

------------------------------------------------------------
-- Decomposition
------------------------------------------------------------

namespace Unicode

/-
  The letters of a syllable of Hangul: a leading consonant,
  a vowel, and a trailing consonant unless it has none.
-/
def hangulLetters? (n : Nat) : Option (List Nat) :=
  if 0xAC00 ≤ n ∧ n ≤ 0xD7A3 then
    let s := n - 0xAC00
    let pair := [0x1100 + s / 588, 0x1161 + s % 588 / 28]
    if s % 28 = 0 then some pair
    else some (pair ++ [0x11A7 + s % 28])
  else
    none

/- The full decomposition of a character. -/
def decomposeOne (n : Nat) : List Nat :=
  match hangulLetters? n with
  | some letters => letters
  | none =>
      ((decompositions.find? fun r => r.1 == n).map
        Prod.snd).getD [n]

/- Insert a mark before the first of a higher class. -/
def insertMark (n : Nat) : List Nat → List Nat
| [] => [n]
| m :: rest =>
    if combiningClass n < combiningClass m then n :: m :: rest
    else m :: insertMark n rest

/- Sort marks by class; equal classes keep their order. -/
def sortMarks (marks : List Nat) : List Nat :=
  marks.foldl (fun sorted n => insertMark n sorted) []

/-
  Put each run of marks in the order of their classes. The
  run under way is kept apart.
-/
def orderMarks : List Nat → List Nat → List Nat
| run, [] => sortMarks run
| run, n :: rest =>
    if combiningClass n = 0 then
      sortMarks run ++ n :: orderMarks [] rest
    else
      orderMarks (run ++ [n]) rest

/- Decompose a text. -/
def decompose (ns : List Nat) : List Nat :=
  orderMarks [] (ns.flatMap decomposeOne)

end Unicode

------------------------------------------------------------
-- Composition
------------------------------------------------------------

namespace Unicode

/- The syllable of Hangul two letters compose to. -/
def hangulPair? (a b : Nat) : Option Nat :=
  if 0x1100 ≤ a ∧ a < 0x1113 ∧ 0x1161 ≤ b ∧ b < 0x1176 then
    some (0xAC00 + (a - 0x1100) * 588 + (b - 0x1161) * 28)
  else if 0xAC00 ≤ a ∧ a ≤ 0xD7A3 ∧ (a - 0xAC00) % 28 = 0
      ∧ 0x11A8 ≤ b ∧ b < 0x11C3 then
    some (a + (b - 0x11A7))
  else
    none

/- The character two characters compose to. -/
def compose? (a b : Nat) : Option Nat :=
  match hangulPair? a b with
  | some n => some n
  | none =>
      (compositions.find? fun r => r.2 == [a, b]).map Prod.fst

/-
  Compose a text onto a starter. The marks that did not
  compose are kept in reverse; one of them blocks what has
  no higher class.
-/
def composeOnto : Nat → List Nat → List Nat → List Nat
| starter, kept, [] => starter :: kept.reverse
| starter, kept, n :: rest =>
    let blocked :=
      match kept with
      | [] => false
      | m :: _ =>
          combiningClass m = 0
            || combiningClass n ≤ combiningClass m
    match if blocked then none else compose? starter n with
    | some c => composeOnto c kept rest
    | none =>
        if combiningClass n = 0 then
          starter :: kept.reverse ++ composeOnto n [] rest
        else
          composeOnto starter (n :: kept) rest

/- Compose a text. Marks in front of the first starter stay. -/
def compose (ns : List Nat) : List Nat :=
  let front := ns.takeWhile fun n => combiningClass n ≠ 0
  match ns.dropWhile fun n => combiningClass n ≠ 0 with
  | [] => front
  | n :: rest => front ++ composeOnto n [] rest

end Unicode

------------------------------------------------------------
-- Normal form
------------------------------------------------------------

namespace Unicode

/- The composed normal form of a text. -/
def normalize (cs : List Char) : List Char :=
  if cs.all (·.toNat < 0x80) then cs
  else
    (compose (decompose (cs.map Char.toNat))).map Char.ofNat

end Unicode

end UrlShortener
