import UrlShortener.Json.Fault
import UrlShortener.Number.Decimal
import UrlShortener.Text.Percent

/-
  This file defines the reading of the tokens of a JSON
  text from its bytes: blanks, words, strings and numbers,
  and the skipping of whole values. Each reader answers
  with the bytes after what it read, or with a fault.

  Key definitions include:
    * `Json.skipBlanks`
    * `Json.readWord`
    * `Json.readText`
    * `Json.Numeral`
    * `Json.readNumeral`
    * `Json.skipValue`
-/

namespace UrlShortener

------------------------------------------------------------
-- Faults found while reading
------------------------------------------------------------

namespace Json

/- A syntax fault found with the last byte read. -/
def faultHere
    {α : Type}
    (fault : SyntaxFault)
    (rest : List UInt8) : Except Fault α :=
  .error ⟨.whole, .notJson fault, rest.length⟩

/- A syntax fault found at the next byte, if there is one. -/
def faultNext
    {α : Type}
    (fault : SyntaxFault)
    (rest : List UInt8) : Except Fault α :=
  .error ⟨.whole, .notJson fault, rest.length - 1⟩

/- A value that is JSON but not the one asked for. -/
def notAsked
    {α : Type}
    (reason : String)
    (rest : List UInt8) : Except Fault α :=
  .error ⟨.whole, .notAsked reason, rest.length⟩

/- Name the place of a fault that has none yet. -/
def within
    {α : Type}
    (place : Place)
    (outcome : Except Fault α) : Except Fault α :=
  outcome.mapError fun f =>
    match f.place with
    | .whole => { f with place := place }
    | _ => f

end Json

------------------------------------------------------------
-- Blanks and words
------------------------------------------------------------

namespace Json

/- The blanks between tokens. -/
def isSpace (b : UInt8) : Bool :=
  b == 32 || b == 10 || b == 9 || b == 13

/- Skip the blanks in front. -/
def skipBlanks (bytes : List UInt8) : List UInt8 :=
  bytes.dropWhile isSpace

/- The digits of the decimal system. -/
def isDigit (b : UInt8) : Bool :=
  48 ≤ b && b ≤ 57

/- Read the rest of a word whose first letter was read. -/
def readWord :
    List UInt8 → List UInt8 → Except Fault (List UInt8)
| [], rest => .ok rest
| _ :: _, [] => faultHere .endInValue []
| w :: word, b :: rest =>
    if b = w then readWord word rest
    else faultHere .expectedIdentifier rest

/- The words `null`, `true` and `false` after a letter. -/
def readNull : List UInt8 → Except Fault (List UInt8) :=
  readWord [0x75, 0x6C, 0x6C]
def readTrue : List UInt8 → Except Fault (List UInt8) :=
  readWord [0x72, 0x75, 0x65]
def readFalse : List UInt8 → Except Fault (List UInt8) :=
  readWord [0x61, 0x6C, 0x73, 0x65]

end Json

------------------------------------------------------------
-- Strings
------------------------------------------------------------

namespace Json

/- Read the four digits of an escape by code unit. -/
def readUnit : List UInt8 → Except Fault (Nat × List UInt8)
| a :: b :: c :: d :: rest =>
    match Percent.digit? a, Percent.digit? b,
        Percent.digit? c, Percent.digit? d with
    | some w, some x, some y, some z =>
        .ok (w * 4096 + x * 256 + y * 16 + z, rest)
    | _, _, _, _ => faultHere .invalidEscape rest
| _ => faultHere .endInString []

/- The byte a one-letter escape stands for. -/
def plainEscape? (b : UInt8) : Option UInt8 :=
  if b = 0x22 ∨ b = 0x5C ∨ b = 0x2F then some b
  else if b = 0x62 then some 8
  else if b = 0x66 then some 12
  else if b = 0x6E then some 10
  else if b = 0x72 then some 13
  else if b = 0x74 then some 9
  else none

/-
  Read the second half of a pair of surrogates, after a
  first half.
-/
def readTrailing (high : Nat) : List UInt8 → Except Fault (Nat × List UInt8)
| [] => faultHere .endInString []
| b :: rest =>
    if b ≠ 0x5C then faultHere .shortEscape rest
    else
      match rest with
      | [] => faultHere .endInString []
      | u :: rest =>
          if u ≠ 0x75 then faultHere .shortEscape rest
          else do
            let (low, rest) ← readUnit rest
            if low < 0xDC00 ∨ 0xDFFF < low then
              faultHere .loneSurrogate rest
            else
              .ok ((high - 0xD800) * 1024 + (low - 0xDC00)
                + 0x10000, rest)

/- Read an escape after its backslash, as UTF-8 bytes. -/
def readEscape : List UInt8 → Except Fault (List UInt8 × List UInt8)
| [] => faultHere .endInString []
| b :: rest =>
    match plainEscape? b with
    | some e => .ok ([e], rest)
    | none =>
        if b ≠ 0x75 then faultHere .invalidEscape rest
        else do
          let (unit, rest) ← readUnit rest
          if 0xDC00 ≤ unit ∧ unit ≤ 0xDFFF then
            faultHere .loneSurrogate rest
          else if 0xD800 ≤ unit ∧ unit ≤ 0xDBFF then do
            let (n, rest) ← readTrailing unit rest
            .ok (String.utf8EncodeChar (Char.ofNat n), rest)
          else
            .ok (String.utf8EncodeChar (Char.ofNat unit), rest)

/- The number of bytes an escape takes after its backslash. -/
def escapeLength (bytes : List UInt8) (result : List UInt8) :
    Nat :=
  match bytes with
  | 0x75 :: _ => if result.length = 4 then 11 else 5
  | _ => 1

/-
  The number of bytes in front of the quote that closes a
  string, or of all bytes if there is none. The flag says
  whether the next byte is escaped.
-/
def textSpan : Bool → List UInt8 → Nat
| _, [] => 0
| true, _ :: rest => textSpan false rest + 1
| false, b :: rest =>
    if b = 0x22 then 0 else textSpan (b == 0x5C) rest + 1

/-
  Read a string after its opening quote. The bytes read so
  far are kept in reverse, each with its place in the
  string. The fuel bounds the number of steps.
-/
def readString :
    Nat → Nat → List (UInt8 × Nat) → List UInt8 →
    Except Fault (List (UInt8 × Nat) × List UInt8)
| 0, _, _, rest => faultHere .endInString rest
| _, _, _, [] => faultHere .endInString []
| fuel + 1, i, done, b :: rest =>
    if b = 0x22 then .ok (done.reverse, rest)
    else if b = 0x5C then
      match readEscape rest with
      | .ok (bytes, after) =>
          readString fuel (i + 1 + escapeLength rest bytes)
            (bytes.reverse.map (·, i) ++ done) after
      | .error f => .error f
    else if b < 0x20 then faultHere .controlCharacter rest
    else readString fuel (i + 1) ((b, i) :: done) rest

/-
  Read a string as text after its opening quote. Bytes that
  are not UTF-8 are found at the first of them.
-/
def readText (bytes : List UInt8) :
    Except Fault (String × List UInt8) := do
  let (read, rest) ←
    readString (textSpan false bytes + 1) 0 [] bytes
  match Utf8.decode (read.map Prod.fst) with
  | .ok cs => .ok (String.ofList cs, rest)
  | .error i =>
      let place := (read[i]?.map Prod.snd).getD 0
      faultNext .invalidCodePoint (bytes.drop place)

/- Skip a string after its opening quote. -/
def skipString :
    Nat → List UInt8 → Except Fault (List UInt8)
| 0, rest => faultHere .endInString rest
| _, [] => faultHere .endInString []
| fuel + 1, b :: rest =>
    if b = 0x22 then .ok rest
    else if b = 0x5C then
      match rest with
      | [] => faultHere .endInString []
      | e :: after =>
          if (plainEscape? e).isSome then
            skipString fuel after
          else if e ≠ 0x75 then
            faultHere .invalidEscape after
          else
            match readUnit after with
            | .ok (_, after) => skipString fuel after
            | .error f => .error f
    else if b < 0x20 then
      faultHere .controlCharacter (b :: rest)
    else
      skipString fuel rest

end Json

------------------------------------------------------------
-- Numbers
------------------------------------------------------------

namespace Json

/- A number: whole, or a sign and a binary number. -/
inductive Numeral where
| whole (value : Int)
| real (negative : Bool) (value : Binary)
deriving DecidableEq, Repr

/- The largest whole number of 64 bits. -/
def maxWhole : Nat := 18446744073709551615

/- The largest exponent of 32 bits. -/
def maxExponent : Nat := 2147483647

/- A real number, unless it is too large. -/
def realNumeral
    (negative : Bool)
    (significand : Nat)
    (e : Int)
    (rest : List UInt8) : Except Fault (Numeral × List UInt8) :=
  match Decimal.value? significand e with
  | some value => .ok (.real negative value, rest)
  | none => faultHere .numberOutOfRange rest

/-
  Read the digits of an exponent onto one already read,
  with the end of the digits, or the byte after the digit
  that passes the largest exponent.
-/
def exponentDigits :
    Nat → List UInt8 → Bool × Nat × List UInt8
| n, [] => (false, n, [])
| n, b :: rest =>
    if isDigit b then
      let next := 10 * n + (b.toNat - 48)
      if maxExponent < next then (true, n, rest)
      else exponentDigits next rest
    else
      (false, n, b :: rest)

/- Read an exponent after its letter. -/
def readExponent
    (negative : Bool)
    (significand : Nat)
    (start : Int)
    (bytes : List UInt8) : Except Fault (Numeral × List UInt8) :=
  let (down, digits) :=
    match bytes with
    | 0x2B :: rest => (false, rest)
    | 0x2D :: rest => (true, rest)
    | rest => (false, rest)
  match digits with
  | [] => faultHere .endInValue []
  | b :: rest =>
      if !isDigit b then faultHere .invalidNumber rest
      else
        let (tooBig, n, after) :=
          exponentDigits (b.toNat - 48) rest
        if tooBig then
          if significand ≠ 0 && !down then
            faultHere .numberOutOfRange after
          else
            .ok (.real negative Binary.zero,
              after.dropWhile isDigit)
        else
          realNumeral negative significand
            (if down then start - n else start + n) after

/-
  Read the digits after a point onto a significand, as far
  as it stays within 64 bits; further digits are skipped.
-/
def fractionDigits :
    Nat → Int → List UInt8 → Nat × Int × List UInt8
| n, e, [] => (n, e, [])
| n, e, b :: rest =>
    if isDigit b then
      let next := 10 * n + (b.toNat - 48)
      if maxWhole < next then
        (n, e, (b :: rest).dropWhile isDigit)
      else
        fractionDigits next (e - 1) rest
    else
      (n, e, b :: rest)

/- Read a fraction after its point. -/
def readFraction
    (negative : Bool)
    (significand : Nat)
    (start : Int)
    (bytes : List UInt8) :
    Except Fault (Numeral × List UInt8) :=
  match bytes with
  | [] => faultHere .endInValue []
  | b :: _ =>
      if !isDigit b then faultNext .invalidNumber bytes
      else
        let (n, e, rest) :=
          fractionDigits significand start bytes
        match rest with
        | c :: after =>
            if c = 0x65 ∨ c = 0x45 then
              readExponent negative n e after
            else
              realNumeral negative n e rest
        | [] => realNumeral negative n e []

/- Read what follows the whole part of a number. -/
def readTail
    (negative : Bool)
    (significand : Nat)
    (start : Int)
    (whole : Bool)
    (bytes : List UInt8) : Except Fault (Numeral × List UInt8) :=
  match bytes with
  | 0x2E :: rest =>
      readFraction negative significand start rest
  | 0x65 :: rest =>
      readExponent negative significand start rest
  | 0x45 :: rest =>
      readExponent negative significand start rest
  | rest =>
      if !whole then
        realNumeral negative significand start rest
      else if !negative then
        .ok (.whole significand, rest)
      else if significand = 0
          ∨ 9223372036854775808 < significand then
        realNumeral true significand 0 rest
      else
        .ok (.whole (-significand), rest)

/-
  Read the digits of a whole part onto a number already
  read. Digits past 64 bits only raise the exponent.
-/
def wholeDigits :
    Nat → List UInt8 → Nat × Nat × List UInt8
| n, [] => (n, 0, [])
| n, b :: rest =>
    if isDigit b then
      let next := 10 * n + (b.toNat - 48)
      if maxWhole < next then
        let after := (b :: rest).dropWhile isDigit
        (n, (b :: rest).length - after.length, after)
      else
        wholeDigits next rest
    else
      (n, 0, b :: rest)

/- Read a number after its sign. -/
def readNumeral
    (negative : Bool)
    (bytes : List UInt8) : Except Fault (Numeral × List UInt8) :=
  match bytes with
  | [] => faultHere .endInValue []
  | b :: rest =>
      if b = 0x30 then
        match rest with
        | c :: _ =>
            if isDigit c then faultNext .invalidNumber rest
            else readTail negative 0 0 true rest
        | [] => readTail negative 0 0 true rest
      else if isDigit b then
        let (n, e, after) := wholeDigits (b.toNat - 48) rest
        readTail negative n e (e == 0) after
      else
        faultHere .invalidNumber rest

/- The wording of a number that was not asked for. -/
def Numeral.described : Numeral → String
| .whole value => "integer `" ++ toString value ++ "`"
| .real negative value =>
    "floating point `" ++ (if negative then "-" else "")
      ++ String.ofList (Decimal.text Decimal.json value) ++ "`"

end Json

------------------------------------------------------------
-- Skipped values
------------------------------------------------------------

namespace Json

/- Skip an exponent after its letter. -/
def skipExponent (bytes : List UInt8) :
    Except Fault (List UInt8) :=
  let digits :=
    match bytes with
    | 0x2B :: rest => rest
    | 0x2D :: rest => rest
    | rest => rest
  match digits with
  | [] => faultHere .invalidNumber []
  | b :: rest =>
      if isDigit b then .ok (rest.dropWhile isDigit)
      else faultHere .invalidNumber rest

/- Skip a fraction or an exponent, if there is one. -/
def skipTail (bytes : List UInt8) :
    Except Fault (List UInt8) :=
  match bytes with
  | b :: rest =>
      if b = 0x2E then
        let after := rest.dropWhile isDigit
        if after.length = rest.length then
          faultNext .invalidNumber rest
        else
          match after with
          | c :: tail =>
              if c = 0x65 ∨ c = 0x45 then skipExponent tail
              else .ok after
          | [] => .ok []
      else if b = 0x65 ∨ b = 0x45 then
        skipExponent rest
      else
        .ok bytes
  | [] => .ok []

/- Skip a number after its sign. -/
def skipNumeral (bytes : List UInt8) :
    Except Fault (List UInt8) :=
  match bytes with
  | [] => faultHere .invalidNumber []
  | b :: rest =>
      if b = 0x30 then
        match rest with
        | c :: _ =>
            if isDigit c then faultNext .invalidNumber rest
            else skipTail rest
        | [] => .ok []
      else if isDigit b then
        skipTail (rest.dropWhile isDigit)
      else
        faultHere .invalidNumber rest

/- The kinds of values that hold others. -/
inductive Frame where
| list
| object
deriving DecidableEq, Repr

/- What skipping comes to next. -/
inductive Skip where
| finished (rest : List UInt8)
| opened (frame : Frame) (rest : List UInt8)

/- Skip a value, or the opening bracket of one. -/
def skipStart (bytes : List UInt8) : Except Fault Skip :=
  match skipBlanks bytes with
  | [] => faultNext .endInValue []
  | b :: rest =>
      if b = 0x6E then (readNull rest).map .finished
      else if b = 0x74 then (readTrue rest).map .finished
      else if b = 0x66 then (readFalse rest).map .finished
      else if b = 0x2D then (skipNumeral rest).map .finished
      else if isDigit b then
        (skipNumeral (b :: rest)).map .finished
      else if b = 0x22 then
        (skipString (textSpan false rest + 1) rest).map
          .finished
      else if b = 0x5B then .ok (.opened .list rest)
      else if b = 0x7B then .ok (.opened .object rest)
      else faultNext .expectedValue (b :: rest)

/- Skip the key and the colon of a field. -/
def skipKey (bytes : List UInt8) :
    Except Fault (List UInt8) :=
  match skipBlanks bytes with
  | [] => faultNext .endInObject []
  | b :: rest =>
      if b ≠ 0x22 then faultNext .keyNotString (b :: rest)
      else do
        let after ← skipString (textSpan false rest + 1) rest
        match skipBlanks after with
        | [] => faultNext .endInObject []
        | c :: tail =>
            if c = 0x3A then .ok tail
            else faultNext .expectedColon (c :: tail)

/-
  Close the values that end here, innermost first, up to a
  comma or the place of a first item. The answer is empty
  when the outermost value has ended.
-/
def closeFrames :
    Bool → List Frame → List UInt8 →
    Except Fault (List Frame × List UInt8)
| _, [], rest => .ok ([], rest)
| comma, frame :: outer, bytes =>
    match skipBlanks bytes with
    | [] =>
        match frame with
        | .list => faultNext .endInList []
        | .object => faultNext .endInObject []
    | b :: rest =>
        if comma && b == 0x2C then
          .ok (frame :: outer, rest)
        else if (frame = .list ∧ b = 0x5D)
            ∨ (frame = .object ∧ b = 0x7D) then
          closeFrames true outer rest
        else if comma then
          match frame with
          | .list => faultNext .expectedListEnd (b :: rest)
          | .object =>
              faultNext .expectedObjectEnd (b :: rest)
        else
          .ok (frame :: outer, b :: rest)

/-
  Skip a value inside the open ones. The fuel bounds the
  number of values.
-/
def skipInside :
    Nat → List Frame → List UInt8 →
    Except Fault (List UInt8)
| 0, _, rest => .ok rest
| fuel + 1, frames, bytes =>
    match skipStart bytes with
    | .error f => .error f
    | .ok skip =>
        let closed :=
          match skip with
          | .finished rest => closeFrames true frames rest
          | .opened frame rest =>
              closeFrames false (frame :: frames) rest
        match closed with
        | .error f => .error f
        | .ok ([], rest) => .ok rest
        | .ok (.list :: outer, rest) =>
            skipInside fuel (.list :: outer) rest
        | .ok (.object :: outer, rest) =>
            match skipKey rest with
            | .error f => .error f
            | .ok rest =>
                skipInside fuel (.object :: outer) rest

/-
  Skip a value. A fuel of the number of bytes is enough for
  all values that may lie in them.
-/
def skipValue
    (fuel : Nat)
    (bytes : List UInt8) : Except Fault (List UInt8) :=
  skipInside (fuel + 1) [] bytes

end Json

end UrlShortener
