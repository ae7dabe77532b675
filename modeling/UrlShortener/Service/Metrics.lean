/-
  This file defines what the service counts about itself.

  Key definitions include:
    * `Metric`
    * `Metrics`
    * `Metrics.add`
-/

namespace UrlShortener

------------------------------------------------------------
-- Names
------------------------------------------------------------

/- The totals the service keeps. -/
inductive Metric where
| linksCreated
| collisions
| exhausted
| resolves
| visitsDropped
| visitsRecorded
| visitsFailed
deriving DecidableEq, Repr

namespace Metric

/- All totals. -/
def all : List Metric :=
  [.linksCreated, .collisions, .exhausted, .resolves,
    .visitsDropped, .visitsRecorded, .visitsFailed]

/- The name of a total. -/
def name : Metric → String
| .linksCreated => "shortlink_links_created_total"
| .collisions => "shortlink_generation_collisions_total"
| .exhausted => "shortlink_generation_exhausted_total"
| .resolves => "shortlink_resolves_total"
| .visitsDropped => "shortlink_visits_dropped_total"
| .visitsRecorded => "shortlink_visits_recorded_total"
| .visitsFailed => "shortlink_visits_failed_total"

end Metric

------------------------------------------------------------
-- Totals
------------------------------------------------------------

/- The totals so far. -/
structure Metrics where
  linksCreated : Nat
  collisions : Nat
  exhausted : Nat
  resolves : Nat
  visitsDropped : Nat
  visitsRecorded : Nat
  visitsFailed : Nat
deriving DecidableEq, Repr

namespace Metrics

/- Nothing has happened yet. -/
def zero : Metrics := ⟨0, 0, 0, 0, 0, 0, 0⟩

/- A total. -/
def get (m : Metrics) : Metric → Nat
| .linksCreated => m.linksCreated
| .collisions => m.collisions
| .exhausted => m.exhausted
| .resolves => m.resolves
| .visitsDropped => m.visitsDropped
| .visitsRecorded => m.visitsRecorded
| .visitsFailed => m.visitsFailed

/- Add one to a total. -/
def add (m : Metrics) : Metric → Metrics
| .linksCreated => { m with linksCreated := m.linksCreated + 1 }
| .collisions => { m with collisions := m.collisions + 1 }
| .exhausted => { m with exhausted := m.exhausted + 1 }
| .resolves => { m with resolves := m.resolves + 1 }
| .visitsDropped =>
    { m with visitsDropped := m.visitsDropped + 1 }
| .visitsRecorded =>
    { m with visitsRecorded := m.visitsRecorded + 1 }
| .visitsFailed => { m with visitsFailed := m.visitsFailed + 1 }

end Metrics

end UrlShortener
