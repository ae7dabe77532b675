import UrlShortener.Text.Hex
import UrlShortener.Unicode.QuotingTable
import UrlShortener.Unicode.Rows

/-
  This file defines how a text is quoted in a message, so
  that each of its characters can be seen: quotes,
  backslashes and line breaks are escaped, and characters
  without a shape of their own are shown by their code
  points.

  Key definitions include:
    * `Quoted.isVisible`
    * `Quoted.text`
-/

namespace UrlShortener

------------------------------------------------------------
-- Characters
------------------------------------------------------------

namespace Quoted

/- The characters without a shape of their own. -/
def shapeless : List Unicode.CharRange :=
  Unicode.ranges Unicode.shapelessRows

/- The characters that extend the one in front. -/
def extending : List Unicode.CharRange :=
  Unicode.ranges Unicode.extendingRows

/- A character that can be seen on its own. -/
def isVisible (c : Char) : Bool :=
  (0x20 ≤ c.toNat && c.toNat < 0x7F)
    || !(Unicode.isIn shapeless c || Unicode.isIn extending c)

/- A character by its code point. -/
def byCodePoint (c : Char) : List Char :=
  '\\' :: 'u' :: '\x7b' :: Hex.lower c.toNat ++ ['\x7d']

/- A character inside a quoted text. -/
def escapeChar (c : Char) : List Char :=
  if c = '\x22' then ['\\', '\x22']
  else if c = '\\' then ['\\', '\\']
  else if c = '\n' then ['\\', 'n']
  else if c = '\r' then ['\\', 'r']
  else if c = '\t' then ['\\', 't']
  else if c.toNat = 0 then ['\\', '0']
  else if isVisible c then [c]
  else byCodePoint c

end Quoted

------------------------------------------------------------
-- Texts
------------------------------------------------------------

namespace Quoted

/- A text between quotes. -/
def text (s : String) : String :=
  String.ofList
    ('\x22' :: s.toList.flatMap escapeChar ++ ['\x22'])

end Quoted

end UrlShortener
