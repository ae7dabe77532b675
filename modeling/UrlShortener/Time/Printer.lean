import UrlShortener.Time.Span
import UrlShortener.Time.Timestamp

/-
  This file defines the text of points of time: RFC 3339 in
  UTC, with no fraction when it is zero, else the shortest
  of three, six and nine digits that loses nothing.

  Key definitions include:
    * `Timestamp.yearText`
    * `Timestamp.fractionText`
    * `Timestamp.text`
-/

namespace UrlShortener

------------------------------------------------------------
-- Text
------------------------------------------------------------

namespace Timestamp

/-
  Four digits within 0 to 9999; a sign and at least four
  digits outside.
-/
def yearText (year : Int) : List Char :=
  if 0 ≤ year ∧ year ≤ 9999 then
    Span.padded 4 year.toNat
  else if year < 0 then
    '-' :: Span.padded 4 year.natAbs
  else
    '+' :: Span.padded 4 year.toNat

/- The fraction of a second, with its point. -/
def fractionText (nano : Nat) : List Char :=
  if nano = 0 then []
  else if nano % 1000000 = 0 then
    '.' :: Span.padded 3 (nano / 1000000)
  else if nano % 1000 = 0 then
    '.' :: Span.padded 6 (nano / 1000)
  else
    '.' :: Span.padded 9 nano

/- The text of a point of time. -/
def text (t : Timestamp) : String :=
  let date := Date.ofDays t.day
  let leap := decide (1000000000 ≤ t.nano)
  let second := t.second % 60 + (if leap then 1 else 0)
  let nano := if leap then t.nano - 1000000000 else t.nano
  String.ofList
    (yearText date.year
      ++ '-' :: Span.padded 2 date.month
      ++ '-' :: Span.padded 2 date.day
      ++ 'T' :: Span.padded 2 (t.second / 3600)
      ++ ':' :: Span.padded 2 (t.second / 60 % 60)
      ++ ':' :: Span.padded 2 second
      ++ fractionText nano
      ++ ['Z'])

end Timestamp

end UrlShortener
