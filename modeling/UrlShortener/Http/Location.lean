import UrlShortener.Service.Failure
import UrlShortener.Url.Parser

/-
  This file defines where a redirect leads: to the stored
  destination as it was given, if that can stand in a
  header, or else to the text of its URL.

  Key definitions include:
    * `Location.isHeaderChar`
    * `Location.header?`
    * `Location.ofLink`
-/

namespace UrlShortener

------------------------------------------------------------
-- Header values
------------------------------------------------------------

namespace Location

/- The ASCII characters that may stand in a header. -/
def isHeaderChar (c : Char) : Bool :=
  c == '\t' || (0x20 ≤ c.toNat && c.toNat < 0x7F)

/- A text as a header, if it can be one. -/
def header? (s : String) : Option String :=
  if s.toList.all isHeaderChar then some s else none

end Location

------------------------------------------------------------
-- Locations
------------------------------------------------------------

namespace Location

/- A stored destination that no header can hold. -/
def unusable (longUrl : String) : Failure :=
  .internal "Stored URL is not a valid Location header"
    (.record [("long_url", .text longUrl)])

/- The location of a destination. -/
def ofLink (longUrl : String) : Except Failure String :=
  match header? longUrl with
  | some s => .ok s
  | none =>
      match (Url.ofText longUrl).toOption with
      | none => .error (unusable longUrl)
      | some u =>
          match header? u.text with
          | some s => .ok s
          | none => .error (unusable longUrl)

end Location

end UrlShortener
