import UrlShortener.Text.Hex
import UrlShortener.Text.Split

/-
  This file defines the reading of tables of characters,
  written as rows between blanks, and the search in them.

  A row names a character or a range of characters by code
  points in hexadecimal; after a colon there may stand what
  the row says of them.

  Key definitions include:
    * `Unicode.CharRange`
    * `Unicode.CharRange.holds`
    * `Unicode.ranges`
    * `Unicode.isIn`
    * `Unicode.Row`
    * `Unicode.rows`
-/

namespace UrlShortener

------------------------------------------------------------
-- Words
------------------------------------------------------------

namespace Unicode

/- The words of a text. -/
def words (s : String) : List (List Char) :=
  (Text.splitWhere (fun c => c == ' ' || c == '\n') s.toList).filter
    fun w => !w.isEmpty

/- A code point, zero if it is not written properly. -/
def codePoint (cs : List Char) : Nat :=
  (Hex.number? cs).getD 0

end Unicode

------------------------------------------------------------
-- Ranges
------------------------------------------------------------

namespace Unicode

/-
  Every `stride`-th character from a first to a last one; a
  stride of zero stands for one that takes every character
  and gives all of them the same meaning.
-/
structure CharRange where
  first : Nat
  last : Nat
  stride : Nat
deriving DecidableEq, Repr

namespace CharRange

/- Whether a code point belongs to a range. -/
def holds (r : CharRange) (n : Nat) : Bool :=
  r.first ≤ n && n ≤ r.last
    && (r.stride ≤ 1 || (n - r.first) % r.stride == 0)

/- How far a code point lies behind the first one. -/
def offset (r : CharRange) (n : Nat) : Nat :=
  if r.stride = 0 then 0 else n - r.first

/- Read a range. -/
def read (w : List Char) : CharRange :=
  let first := w.takeWhile Char.isAlphanum
  let n := codePoint first
  match w.dropWhile Char.isAlphanum with
  | '-' :: last => ⟨n, codePoint last, 1⟩
  | '/' :: last => ⟨n, codePoint last, 2⟩
  | '=' :: last => ⟨n, codePoint last, 0⟩
  | _ => ⟨n, n, 1⟩

end CharRange

/- The ranges of a table. -/
def ranges (s : String) : List CharRange :=
  (words s).map CharRange.read

/- Whether a character lies in one of the ranges. -/
def isIn (rs : List CharRange) (c : Char) : Bool :=
  rs.any fun r => r.holds c.toNat

end Unicode

------------------------------------------------------------
-- Rows with a meaning
------------------------------------------------------------

namespace Unicode

/- A range and the text after its colon. -/
structure Row where
  range : CharRange
  meaning : List Char
deriving DecidableEq, Repr

namespace Row

/- Read a row. -/
def read (w : List Char) : Row :=
  { range := CharRange.read (w.takeWhile (· != ':'))
    meaning := (w.dropWhile (· != ':')).drop 1 }

/- The meaning as a list of code points between dots. -/
def targets (r : Row) : List Nat :=
  (Text.split '.' r.meaning).map codePoint

/- The meaning as a decimal number. -/
def decimal (r : Row) : Nat :=
  r.meaning.foldl (fun n c => 10 * n + (c.toNat - 48)) 0

end Row

/- The rows of a table. -/
def rows (s : String) : List Row :=
  (words s).map Row.read

end Unicode

end UrlShortener
