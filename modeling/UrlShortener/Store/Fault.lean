import UrlShortener.Time.Span

/-
  This file defines why a call of the link store fails.

  Key definitions include:
    * `StoreFault`
    * `StoreFault.message`
-/

namespace UrlShortener

------------------------------------------------------------
-- Faults
------------------------------------------------------------

/- Why a call of the link store fails. -/
inductive StoreFault where
| conflict (code : String)
| notFound
| closed
| timeout (limit : Span)
| backend (reason : String)
deriving DecidableEq, Repr

namespace StoreFault

/- The wording of a fault. -/
def message : StoreFault → String
| .conflict code => "short code already exists: " ++ code
| .notFound => "link not found"
| .closed => "link store is closed"
| .timeout limit =>
    "link store operation timed out after " ++ limit.text
| .backend reason => "link store backend error: " ++ reason

end StoreFault

end UrlShortener
