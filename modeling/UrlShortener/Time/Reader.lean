import UrlShortener.Text.Blank
import UrlShortener.Time.Timestamp

/-
  This file defines the reading of points of time. The
  grammar is RFC 3339 with some freedom: blanks between the
  parts, one-digit numbers, signed years of any length, an
  offset with or without a colon, and UTC as an offset.

  Key definitions include:
    * `TimeFault`
    * `TimeFault.message`
    * `Timestamp.readDate`
    * `Timestamp.readOffset`
    * `Timestamp.read`
-/

namespace UrlShortener

------------------------------------------------------------
-- Faults
------------------------------------------------------------

/- Why a text is not a point of time. -/
inductive TimeFault where
| outOfRange
| impossible
| invalid
| tooShort
| tooLong
deriving DecidableEq, Repr

namespace TimeFault

/- The wording of a fault. -/
def message : TimeFault → String
| .outOfRange => "input is out of range"
| .impossible =>
    "no possible date and time matching input"
| .invalid => "input contains invalid characters"
| .tooShort => "premature end of input"
| .tooLong => "trailing input"

end TimeFault

------------------------------------------------------------
-- Numbers and signs
------------------------------------------------------------

namespace Timestamp

/- The largest number of a text, a signed 64-bit one. -/
def maxNumber : Nat := 9223372036854775807

/-
  Read digits onto a number already read, at most `most`
  of them.
-/
def readDigits :
    Nat → Nat → List Char → Except TimeFault (Nat × List Char)
| 0, n, cs => .ok (n, cs)
| _, n, [] => .ok (n, [])
| most + 1, n, c :: rest =>
    if c.isDigit then
      let next := 10 * n + (c.toNat - 48)
      if next ≤ maxNumber then readDigits most next rest
      else .error .outOfRange
    else
      .ok (n, c :: rest)

/- Read a number of at least one and at most `most` digits. -/
def readNumber (most : Nat) :
    List Char → Except TimeFault (Nat × List Char)
| [] => .error .tooShort
| c :: rest =>
    if c.isDigit then readDigits most 0 (c :: rest)
    else .error .invalid

/- Read one given character. -/
def readMark (mark : Char) :
    List Char → Except TimeFault (List Char)
| [] => .error .tooShort
| c :: rest =>
    if c = mark then .ok rest else .error .invalid

/- Read a number within bounds, with blanks in front. -/
def readField
    (most low high : Nat)
    (cs : List Char) :
    Except TimeFault (Nat × List Char) := do
  let (n, rest) ← readNumber most (Text.trimStart cs)
  if low ≤ n ∧ n ≤ high then .ok (n, rest)
  else .error .outOfRange

/- A year has to fit a signed 32-bit number. -/
def boundYear (year : Int) : Except TimeFault Int :=
  if -2147483648 ≤ year ∧ year ≤ 2147483647 then .ok year
  else .error .outOfRange

/-
  Read a year, with blanks in front: at most four digits,
  or a sign and any number of digits.
-/
def readYear (cs : List Char) :
    Except TimeFault (Int × List Char) :=
  match Text.trimStart cs with
  | '-' :: rest => do
      let (n, rest) ← readNumber rest.length rest
      let year ← boundYear (-n)
      .ok (year, rest)
  | '+' :: rest => do
      let (n, rest) ← readNumber rest.length rest
      let year ← boundYear n
      .ok (year, rest)
  | rest => do
      let (n, rest) ← readNumber 4 rest
      .ok (n, rest)

end Timestamp

------------------------------------------------------------
-- Parts
------------------------------------------------------------

namespace Timestamp

/- Read a date, which need not exist. -/
def readDate (cs : List Char) :
    Except TimeFault (Date × List Char) := do
  let (year, rest) ← readYear cs
  let rest ← readMark '-' (Text.trimStart rest)
  let (month, rest) ← readField 2 1 12 rest
  let rest ← readMark '-' (Text.trimStart rest)
  let (day, rest) ← readField 2 1 31 rest
  .ok (⟨year, month, day⟩, rest)

/- The letter or the blank between date and time. -/
def readSeparator :
    List Char → Except TimeFault (List Char)
| [] => .error .tooShort
| c :: rest =>
    if c = 'T' ∨ c = 't' ∨ c = ' ' then .ok rest
    else .error .invalid

/-
  Read a fraction of a second in nanoseconds, if there is
  one. Digits after the ninth are skipped.
-/
def readFraction :
    List Char → Except TimeFault (Nat × List Char)
| '.' :: rest => do
    let (n, after) ← readNumber 9 rest
    let used := rest.length - after.length
    .ok (n * Nat.pow 10 (9 - used), after.dropWhile Char.isDigit)
| rest => .ok (0, rest)

/- Read hour, minute, second and nanosecond. -/
def readTime (cs : List Char) :
    Except TimeFault ((Nat × Nat × Nat × Nat) × List Char) := do
  let (hour, rest) ← readField 2 0 23 cs
  let rest ← readMark ':' (Text.trimStart rest)
  let (minute, rest) ← readField 2 0 59 rest
  let rest ← readMark ':' (Text.trimStart rest)
  let (second, rest) ← readField 2 0 60 rest
  let (nano, rest) ← readFraction rest
  .ok ((hour, minute, second, nano), rest)

/- Two digits of an offset; its minutes stay below sixty. -/
def readPair (minutes : Bool) :
    List Char → Except TimeFault (Nat × List Char)
| [] => .error .tooShort
| [c] =>
    if 0x80 ≤ c.toNat then .error .invalid
    else .error .tooShort
| c :: d :: rest =>
    if c.isDigit && d.isDigit then
      if minutes && '6' ≤ c then .error .outOfRange
      else
        .ok (10 * (c.toNat - 48) + (d.toNat - 48), rest)
    else
      .error .invalid

/- Read the hours and minutes after the sign of an offset. -/
def readClock (cs : List Char) :
    Except TimeFault (Nat × List Char) := do
  let (hours, rest) ← readPair false cs
  let rest := rest.dropWhile (fun c =>
    c == ':' || Text.isBlank c)
  let (minutes, rest) ← readPair true rest
  .ok (hours * 3600 + minutes * 60, rest)

/- An ASCII letter, compared without its case. -/
def isLetter (upper c : Char) : Bool :=
  c.toUpper == upper

/-
  Read `Z` or a sign with hours and minutes, as seconds. The
  minus sign proper counts as the hyphen does.
-/
def readSigned (cs : List Char) :
    Except TimeFault (Int × List Char) :=
  match cs with
  | [] => .error .tooShort
  | c :: rest =>
      if c = 'Z' ∨ c = 'z' then .ok (0, rest)
      else if c = '+' then do
        let (seconds, rest) ← readClock rest
        .ok ((seconds : Int), rest)
      else if c = '-' ∨ c = Char.ofNat 0x2212 then do
        let (seconds, rest) ← readClock rest
        .ok (-(seconds : Int), rest)
      else
        .error .invalid

/- Read an offset from UTC in seconds, or the word `UTC`. -/
def readOffset (cs : List Char) :
    Except TimeFault (Int × List Char) :=
  match cs with
  | c :: d :: e :: rest =>
      if isLetter 'U' c && isLetter 'T' d && isLetter 'C' e then
        .ok (0, rest)
      else
        readSigned cs
  | _ => readSigned cs

end Timestamp

------------------------------------------------------------
-- Whole texts
------------------------------------------------------------

namespace Timestamp

/-
  The point of time of a date and a time of day at an
  offset. The date has to exist, the offset has to be less
  than a day, and the point has to lie in the calendar.
-/
def compose
    (date : Date)
    (hour minute second nano : Nat)
    (offset : Int) : Except TimeFault Timestamp :=
  if !date.isValid then .error .outOfRange
  else if ¬ (-86400 < offset ∧ offset < 86400) then
    .error .outOfRange
  else
    let leap := second = 60
    let ofDay : Int :=
      hour * 3600 + minute * 60 + (if leap then 59 else second)
    let nano := if leap then nano + 1000000000 else nano
    let t :=
      ofEpoch (date.toDays * 86400 + ofDay - offset) nano
    if t.inRange then .ok t else .error .impossible

/- Read a point of time. -/
def read (cs : List Char) : Except TimeFault Timestamp := do
  let (date, rest) ← readDate cs
  let rest ← readSeparator rest
  let ((hour, minute, second, nano), rest) ← readTime rest
  let (offset, rest) ← readOffset (Text.trimStart rest)
  if !(Text.trimStart rest).isEmpty then .error .tooLong
  else compose date hour minute second nano offset

/- Read a point of time from a string. -/
def ofText (s : String) : Except TimeFault Timestamp :=
  read s.toList

end Timestamp

end UrlShortener
