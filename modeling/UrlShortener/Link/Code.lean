import UrlShortener.Text.Utf8

/-
  This file defines which path segments belong to the
  service itself and which could name a short link.

  Key definitions include:
    * `Code.reserved`
    * `Code.isReserved`
    * `Code.isCodeChar`
    * `Code.isCandidate`
-/

namespace UrlShortener

------------------------------------------------------------
-- Reserved segments
------------------------------------------------------------

namespace Code

/- The first path segments the service keeps for itself. -/
def reserved : List String :=
  ["api", "metrics", "debug", "healthz"]

/- A segment the service keeps, compared exactly. -/
def isReserved (segment : String) : Bool :=
  reserved.contains segment

end Code

------------------------------------------------------------
-- Candidates
------------------------------------------------------------

namespace Code

/- The most bytes of a segment that is looked up. -/
def maxLength : Nat := 64

/- The characters of short codes. -/
def isCodeChar (c : Char) : Bool :=
  c.isAlphanum || c == '_' || c == '-'

/-
  A segment that could name a short link: not empty, not
  too long, not reserved, and of code characters alone.
-/
def isCandidate (segment : String) : Bool :=
  !segment.isEmpty
    && segment.utf8ByteSize ≤ maxLength
    && !isReserved segment
    && segment.toList.all isCodeChar

end Code

end UrlShortener
