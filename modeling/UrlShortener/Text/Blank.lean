/-
  This file defines the blank characters (those with the
  White_Space property) and the trimming of texts.

  Key definitions include:
    * `Text.isBlank`
    * `Text.trimStart`
    * `Text.trimEnd`
    * `Text.trim`
-/

namespace UrlShortener

------------------------------------------------------------
-- Blank characters
------------------------------------------------------------

namespace Text

/- The characters with the White_Space property. -/
def isBlank (c : Char) : Bool :=
  let n := c.toNat
  (9 ≤ n && n ≤ 13)
    || n == 0x20 || n == 0x85 || n == 0xA0 || n == 0x1680
    || (0x2000 ≤ n && n ≤ 0x200A)
    || n == 0x2028 || n == 0x2029 || n == 0x202F
    || n == 0x205F || n == 0x3000

end Text

------------------------------------------------------------
-- Trimming
------------------------------------------------------------

namespace Text

/- Drop the blanks in front. -/
def trimStart (cs : List Char) : List Char :=
  cs.dropWhile isBlank

/- Drop the blanks at the end. -/
def trimEnd (cs : List Char) : List Char :=
  (cs.reverse.dropWhile isBlank).reverse

/- Drop the blanks at both ends. -/
def trim (cs : List Char) : List Char :=
  trimEnd (trimStart cs)

/- Trimming, on strings. -/
def trimmed (s : String) : String :=
  String.ofList (trim s.toList)

/- A text of blanks alone, the empty text included. -/
def isBlankText (s : String) : Bool :=
  s.toList.all isBlank

end Text

end UrlShortener
