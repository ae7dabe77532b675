import UrlShortener.Time.Span

/-
  This file defines why a call of the visit counter fails.

  Key definitions include:
    * `CounterFault`
    * `CounterFault.message`
-/

namespace UrlShortener

------------------------------------------------------------
-- Faults
------------------------------------------------------------

/- Why a call of the visit counter fails. -/
inductive CounterFault where
| timeout (limit : Span)
| backend (reason : String)
deriving DecidableEq, Repr

namespace CounterFault

/- The wording of a fault. -/
def message : CounterFault → String
| .timeout limit =>
    "visit counter operation timed out after " ++ limit.text
| .backend reason => "visit counter backend error: " ++ reason

end CounterFault

end UrlShortener
