/-
  This file defines the queue of visits that wait to be
  counted. It holds a bounded number of visits; a visit that
  finds the queue full or closed is dropped.

  Key definitions include:
    * `VisitQueue`
    * `VisitQueue.free`
    * `VisitQueue.offer?`
    * `VisitQueue.drain`
    * `VisitQueue.close`
-/

namespace UrlShortener

------------------------------------------------------------
-- The queue
------------------------------------------------------------

/- The codes of the visits that wait, oldest first. -/
structure VisitQueue where
  capacity : Nat
  waiting : List String
  closed : Bool
deriving DecidableEq, Repr

namespace VisitQueue

/- The queue without visits. -/
def empty (capacity : Nat) : VisitQueue :=
  { capacity, waiting := [], closed := false }

/- The places left. -/
def free (q : VisitQueue) : Nat :=
  q.capacity - q.waiting.length

/- Add a visit, unless the queue is full or closed. -/
def offer? (q : VisitQueue) (code : String) :
    Option VisitQueue :=
  if q.closed || q.free == 0 then none
  else some { q with waiting := q.waiting ++ [code] }

/- Take all visits out. -/
def drain (q : VisitQueue) : List String × VisitQueue :=
  (q.waiting, { q with waiting := [] })

/- Close the queue for good and discard its visits. -/
def close (q : VisitQueue) : VisitQueue :=
  { q with waiting := [], closed := true }

end VisitQueue

end UrlShortener
