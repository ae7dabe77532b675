/-
  This file defines the counting of visits in memory.

  Key definitions include:
    * `Tally`
    * `Tally.count`
    * `Tally.increment`
-/

namespace UrlShortener

------------------------------------------------------------
-- The tally
------------------------------------------------------------

/- The number of visits of every code visited so far. -/
structure Tally where
  counts : List (String × Nat)
deriving DecidableEq, Repr

namespace Tally

/- The tally without visits. -/
def empty : Tally := ⟨[]⟩

/- The number of visits of a code. -/
def count (t : Tally) (code : String) : Nat :=
  ((t.counts.find? fun c => c.1 == code).map Prod.snd).getD 0

/- Count a visit in a list that may know the code. -/
def bump (code : String) :
    List (String × Nat) → List (String × Nat)
| [] => [(code, 1)]
| (name, n) :: rest =>
    if name = code then (name, n + 1) :: rest
    else (name, n) :: bump code rest

/- Count a visit. -/
def increment (t : Tally) (code : String) : Tally :=
  ⟨bump code t.counts⟩

end Tally

end UrlShortener
