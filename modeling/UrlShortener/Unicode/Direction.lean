import UrlShortener.Unicode.DirectionTable
import UrlShortener.Unicode.JoiningTable
import UrlShortener.Unicode.Normal

/-
  This file defines what the labels of a domain name have
  to satisfy as texts: the rule for right-to-left labels
  and the rule for invisible joiners.

  Key definitions include:
    * `Unicode.Direction`
    * `Unicode.direction`
    * `Unicode.isRightToLeft`
    * `Unicode.directionFits`
    * `Unicode.joinersFit`
    * `Unicode.isMark`
-/

namespace UrlShortener

------------------------------------------------------------
-- Directions
------------------------------------------------------------

namespace Unicode

/- The classes of writing direction. -/
inductive Direction where
| leftToRight
| rightToLeft
| arabicLetter
| arabicNumber
| europeanNumber
| europeanSeparator
| commonSeparator
| europeanTerminator
| otherNeutral
| boundaryNeutral
| nonspacingMark
deriving DecidableEq, Repr

/- The ranges of every class but the first. -/
def directions : List (Direction × List CharRange) :=
  [(.rightToLeft, ranges rightToLeftRows),
    (.arabicLetter, ranges arabicLetterRows),
    (.arabicNumber, ranges arabicNumberRows),
    (.europeanNumber, ranges europeanNumberRows),
    (.europeanSeparator, ranges europeanSeparatorRows),
    (.commonSeparator, ranges commonSeparatorRows),
    (.europeanTerminator, ranges europeanTerminatorRows),
    (.otherNeutral, ranges otherNeutralRows),
    (.boundaryNeutral, ranges boundaryNeutralRows),
    (.nonspacingMark, ranges nonspacingMarkRows)]

/- The class of a character. -/
def direction (c : Char) : Direction :=
  ((directions.find? fun d => isIn d.2 c).map
    Prod.fst).getD .leftToRight

/- A label with a right-to-left letter or number. -/
def isRightToLeft (label : List Char) : Bool :=
  label.any fun c =>
    match direction c with
    | .rightToLeft | .arabicLetter | .arabicNumber => true
    | _ => false

/- The last class of a label, marks at the end left out. -/
def lastDirection? (ds : List Direction) :
    Option Direction :=
  (ds.reverse.dropWhile (· == .nonspacingMark)).head?

/- The classes a label of each direction may hold. -/
def inRightToLeft : Direction → Bool
| .leftToRight => false
| _ => true
def inLeftToRight : Direction → Bool
| .rightToLeft | .arabicLetter | .arabicNumber => false
| _ => true

/-
  The rule for a label of a name in which some label runs
  from right to left.
-/
def directionFits (label : List Char) : Bool :=
  let ds := label.map direction
  match ds with
  | [] => true
  | .leftToRight :: _ =>
      ds.all inLeftToRight
        && (match lastDirection? ds with
          | some .leftToRight | some .europeanNumber => true
          | _ => false)
  | first :: _ =>
      (first == .rightToLeft || first == .arabicLetter)
        && ds.all inRightToLeft
        && (match lastDirection? ds with
          | some .rightToLeft | some .arabicLetter
          | some .europeanNumber | some .arabicNumber => true
          | _ => false)
        && !(ds.contains .europeanNumber
          && ds.contains .arabicNumber)

end Unicode

------------------------------------------------------------
-- Marks and joiners
------------------------------------------------------------

namespace Unicode

/- The tables, read once. -/
def marks : List CharRange := ranges markRows
def dualJoins : List CharRange := ranges dualJoinRows
def leftJoins : List CharRange := ranges leftJoinRows
def rightJoins : List CharRange := ranges rightJoinRows
def transparents : List CharRange := ranges transparentRows

/- The combining marks. -/
def isMark (c : Char) : Bool := isIn marks c

/- The combining class of the signs that end a syllable. -/
def viramaClass : Nat := 9

/- The invisible characters that part and join letters. -/
def nonJoiner : Char := Char.ofNat 0x200C
def joiner : Char := Char.ofNat 0x200D

/-
  A joiner fits after a sign that ends a syllable. A
  non-joiner fits there too, or between letters that would
  join across it.
-/
def joinerFits (before : List Char) (c : Char)
    (after : List Char) : Bool :=
  let afterVirama :=
    match before with
    | p :: _ => combiningClass p.toNat == viramaClass
    | [] => false
  if c = joiner then afterVirama
  else if c = nonJoiner then
    afterVirama
      || ((match before.dropWhile (isIn transparents) with
          | p :: _ => isIn dualJoins p || isIn leftJoins p
          | [] => false)
        && (match after.dropWhile (isIn transparents) with
          | n :: _ => isIn dualJoins n || isIn rightJoins n
          | [] => false))
  else
    true

/-
  Every joiner of a label fits. The characters in front
  are kept in reverse.
-/
def joinersFit : List Char → List Char → Bool
| _, [] => true
| before, c :: rest =>
    joinerFits before c rest && joinersFit (c :: before) rest

end Unicode

end UrlShortener
