/-
  This file defines points of time in UTC. A leap second is
  kept as the last second of its minute with a fraction of
  one second or more, so that it lies after that second and
  before the next one.

  Key definitions include:
    * `Date`
    * `Date.toDays`
    * `Date.ofDays`
    * `Timestamp`
    * `Timestamp.before`
    * `Timestamp.addSeconds?`
-/

namespace UrlShortener

------------------------------------------------------------
-- Calendar dates
------------------------------------------------------------

/- A date of the proleptic Gregorian calendar. -/
structure Date where
  year : Int
  month : Nat
  day : Nat
deriving DecidableEq, Repr

namespace Date

/- Leap years have a 29th of February. -/
def isLeap (year : Int) : Bool :=
  year % 4 == 0 && (year % 100 != 0 || year % 400 == 0)

/- The number of days of a month. -/
def monthLength (year : Int) (month : Nat) : Nat :=
  if month = 2 then
    if isLeap year then 29 else 28
  else if month = 4 ∨ month = 6 ∨ month = 9 ∨ month = 11 then
    30
  else
    31

/- The years the calendar covers. -/
def firstYear : Int := -262143
def lastYear : Int := 262142

/- A date that exists, within the years covered. -/
def isValid (d : Date) : Bool :=
  firstYear ≤ d.year && d.year ≤ lastYear
    && 1 ≤ d.month && d.month ≤ 12
    && 1 ≤ d.day && d.day ≤ monthLength d.year d.month

/-
  Days since 1970-01-01. Years are counted from March, so
  that the leap day ends a year.
-/
def toDays (d : Date) : Int :=
  let y := if d.month ≤ 2 then d.year - 1 else d.year
  let era := y / 400
  let yearOfEra := y % 400
  let shifted : Int := (d.month + 9) % 12
  let dayOfYear : Int := (153 * shifted + 2) / 5 + d.day - 1
  let dayOfEra :=
    yearOfEra * 365 + yearOfEra / 4 - yearOfEra / 100
      + dayOfYear
  era * 146097 + dayOfEra - 719468

/- The date of a day, counted from 1970-01-01. -/
def ofDays (days : Int) : Date :=
  let z := days + 719468
  let era := z / 146097
  let dayOfEra := z % 146097
  let yearOfEra :=
    (dayOfEra - dayOfEra / 1460 + dayOfEra / 36524
      - dayOfEra / 146096) / 365
  let dayOfYear :=
    dayOfEra
      - (365 * yearOfEra + yearOfEra / 4 - yearOfEra / 100)
  let shifted := (5 * dayOfYear + 2) / 153
  let day := dayOfYear - (153 * shifted + 2) / 5 + 1
  let month := if shifted < 10 then shifted + 3 else shifted - 9
  let year := yearOfEra + era * 400
  { year := if month ≤ 2 then year + 1 else year
    month := month.toNat
    day := day.toNat }

/- The first and the last day of the years covered. -/
def firstDay : Int := toDays ⟨firstYear, 1, 1⟩
def lastDay : Int := toDays ⟨lastYear, 12, 31⟩

end Date

------------------------------------------------------------
-- Timestamps
------------------------------------------------------------

/-
  A point of time: the day since 1970-01-01, the second of
  the day and the nanosecond of the second, which passes
  one thousand million in a leap second.
-/
structure Timestamp where
  day : Int
  second : Nat
  nano : Nat
deriving DecidableEq, Repr

namespace Timestamp

/- Strictly earlier. -/
def before (s t : Timestamp) : Bool :=
  s.day < t.day
    || (s.day == t.day
      && (s.second < t.second
        || (s.second == t.second && s.nano < t.nano)))

/- Seconds since 1970, leap seconds left out. -/
def epochSeconds (t : Timestamp) : Int :=
  t.day * 86400 + t.second

/- The point a number of whole seconds after 1970. -/
def ofEpoch (seconds : Int) (nano : Nat) : Timestamp :=
  { day := seconds / 86400
    second := (seconds % 86400).toNat
    nano := nano }

/- Within the years the calendar covers. -/
def inRange (t : Timestamp) : Bool :=
  Date.firstDay ≤ t.day && t.day ≤ Date.lastDay

/-
  The point a number of seconds later, if the calendar
  reaches it. Leaving a leap second forwards counts from
  the second before it, leaving it backwards from the
  second after it.
-/
def addSeconds? (t : Timestamp) (seconds : Int) :
    Option Timestamp :=
  let moved :=
    if t.nano < 1000000000 ∨ seconds = 0 then
      ofEpoch (t.epochSeconds + seconds) t.nano
    else if 0 < seconds then
      ofEpoch (t.epochSeconds + seconds) (t.nano - 1000000000)
    else
      ofEpoch (t.epochSeconds + 1 + seconds)
        (t.nano - 1000000000)
  if moved.inRange then some moved else none

end Timestamp

end UrlShortener
