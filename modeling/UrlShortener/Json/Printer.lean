import UrlShortener.Json.Value
import UrlShortener.Text.Hex

/-
  This file defines the text of JSON values, without blanks
  between the tokens.

  Key definitions include:
    * `Json.quoted`
    * `Json.print`
-/

namespace UrlShortener

------------------------------------------------------------
-- Strings
------------------------------------------------------------

namespace Json

/- A character inside a string. -/
def escapeChar (c : Char) : List Char :=
  if c = '\x22' then ['\\', '\x22']
  else if c = '\\' then ['\\', '\\']
  else if c = '\n' then ['\\', 'n']
  else if c = '\r' then ['\\', 'r']
  else if c = '\t' then ['\\', 't']
  else if c.toNat = 8 then ['\\', 'b']
  else if c.toNat = 12 then ['\\', 'f']
  else if c.toNat < 0x20 then
    ['\\', 'u', '0', '0', Hex.lowerDigit (c.toNat / 16),
      Hex.lowerDigit (c.toNat % 16)]
  else [c]

/- A string between its quotes. -/
def quoted (s : String) : List Char :=
  '\x22' :: s.toList.flatMap escapeChar ++ ['\x22']

end Json

------------------------------------------------------------
-- Values
------------------------------------------------------------

namespace Json

mutual

/- The characters of a value. -/
def chars : Json → List Char
| .null => "null".toList
| .flag true => "true".toList
| .flag false => "false".toList
| .number n => (toString n).toList
| .text s => quoted s
| .list items => '[' :: itemChars items ++ [']']
| .record fields => '\x7b' :: fieldChars fields ++ ['\x7d']

/- The characters of items with commas between them. -/
def itemChars : List Json → List Char
| [] => []
| [item] => chars item
| item :: rest => chars item ++ ',' :: itemChars rest

/- The characters of fields with commas between them. -/
def fieldChars : List (String × Json) → List Char
| [] => []
| [(name, value)] => quoted name ++ ':' :: chars value
| (name, value) :: rest =>
    quoted name ++ ':' :: chars value ++ ',' :: fieldChars rest

end

/- The text of a value. -/
def print (value : Json) : String :=
  String.ofList (chars value)

end Json

end UrlShortener
