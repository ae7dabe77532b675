/-
  This file defines spans of time, in nanoseconds, and
  their text: the largest unit that makes the whole part
  non-zero, with the decimals needed and no more.

  Key definitions include:
    * `Span`
    * `Span.ofMillis`
    * `Span.text`
-/

namespace UrlShortener

------------------------------------------------------------
-- Spans
------------------------------------------------------------

/- A span of time. -/
structure Span where
  nanos : Nat
deriving DecidableEq, Repr

namespace Span

/- A span of whole milliseconds. -/
def ofMillis (ms : Nat) : Span :=
  ⟨ms * 1000000⟩

/- A span of whole seconds and nanoseconds. -/
def ofSeconds (seconds nanos : Nat) : Span :=
  ⟨seconds * 1000000000 + nanos⟩

end Span

------------------------------------------------------------
-- Text
------------------------------------------------------------

namespace Span

/- Digits padded with zeros in front to a width. -/
def padded (width n : Nat) : List Char :=
  let ds := (toString n).toList
  List.replicate (width - ds.length) '0' ++ ds

/-
  A fraction of a unit of ten to the `places`, without the
  zeros at its end; nothing for a fraction of zero.
-/
def decimals (places fraction : Nat) : List Char :=
  if fraction = 0 then []
  else
    '.' :: ((padded places fraction).reverse.dropWhile
      (· == '0')).reverse

/- A span in a unit of ten to the `places` nanoseconds. -/
def inUnit
    (places : Nat)
    (unit : String)
    (nanos : Nat) : String :=
  toString (nanos / Nat.pow 10 places)
    ++ String.ofList
      (decimals places (nanos % Nat.pow 10 places))
    ++ unit

/- The text of a span. -/
def text (d : Span) : String :=
  if 1000000000 ≤ d.nanos then inUnit 9 "s" d.nanos
  else if 1000000 ≤ d.nanos then inUnit 6 "ms" d.nanos
  else if 1000 ≤ d.nanos then inUnit 3 "µs" d.nanos
  else inUnit 0 "ns" d.nanos

end Span

end UrlShortener
