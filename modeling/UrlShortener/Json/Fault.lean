/-
  This file defines what can be wrong with a JSON text, and
  where: a fault is found with a number of bytes still to
  be read, which gives a line and a column of the text.

  Key definitions include:
    * `Json.SyntaxFault`
    * `Json.SyntaxFault.message`
    * `Json.Cause`
    * `Json.Place`
    * `Json.Fault`
    * `Json.Fault.message`
-/

namespace UrlShortener

------------------------------------------------------------
-- Syntax faults
------------------------------------------------------------

namespace Json

/- Why a text is not JSON. -/
inductive SyntaxFault where
| endInList
| endInObject
| endInString
| endInValue
| expectedColon
| expectedListEnd
| expectedObjectEnd
| expectedIdentifier
| expectedValue
| invalidEscape
| invalidNumber
| numberOutOfRange
| invalidCodePoint
| controlCharacter
| keyNotString
| loneSurrogate
| trailingComma
| trailingCharacters
| shortEscape
deriving DecidableEq, Repr

namespace SyntaxFault

/- The wording of a syntax fault. -/
def message : SyntaxFault → String
| .endInList => "EOF while parsing a list"
| .endInObject => "EOF while parsing an object"
| .endInString => "EOF while parsing a string"
| .endInValue => "EOF while parsing a value"
| .expectedColon => "expected `:`"
| .expectedListEnd => "expected `,` or `]`"
| .expectedObjectEnd => "expected `,` or `\x7d`"
| .expectedIdentifier => "expected ident"
| .expectedValue => "expected value"
| .invalidEscape => "invalid escape"
| .invalidNumber => "invalid number"
| .numberOutOfRange => "number out of range"
| .invalidCodePoint => "invalid unicode code point"
| .controlCharacter =>
    "control character (\\u0000-\\u001F) found while "
      ++ "parsing a string"
| .keyNotString => "key must be a string"
| .loneSurrogate => "lone leading surrogate in hex escape"
| .trailingComma => "trailing comma"
| .trailingCharacters => "trailing characters"
| .shortEscape => "unexpected end of hex escape"

end SyntaxFault

end Json

------------------------------------------------------------
-- Faults with their place
------------------------------------------------------------

namespace Json

/-
  The cause of a fault: the text is not JSON, or it is not
  the value asked for.
-/
inductive Cause where
| notJson (fault : SyntaxFault)
| notAsked (reason : String)
deriving DecidableEq, Repr

namespace Cause

/- The wording of a cause. -/
def message : Cause → String
| .notJson fault => fault.message
| .notAsked reason => reason

end Cause

/- The part of the outermost value a fault lies in. -/
inductive Place where
| whole
| field (name : String)
| item (index : Nat)
deriving DecidableEq, Repr

namespace Place

/- How a place is named in front of a fault. -/
def lead : Place → String
| .whole => ""
| .field name => name ++ ": "
| .item index => "[" ++ toString index ++ "]: "

end Place

/-
  A fault: its place, its cause and the number of bytes
  that were not read yet.
-/
structure Fault where
  place : Place
  cause : Cause
  left : Nat
deriving DecidableEq, Repr

namespace Fault

/- The line and the column of a position, by its bytes. -/
def lineColumn : List UInt8 → Nat → Nat × Nat
| bytes, position =>
    (bytes.take position).foldl
      (fun at_ b =>
        if b = 10 then (at_.1 + 1, 0) else (at_.1, at_.2 + 1))
      (1, 0)

/- The wording of a fault in a text. -/
def message (text : List UInt8) (f : Fault) : String :=
  let (line, column) := lineColumn text (text.length - f.left)
  f.place.lead ++ f.cause.message
    ++ " at line " ++ toString line
    ++ " column " ++ toString column

end Fault

end Json

end UrlShortener
