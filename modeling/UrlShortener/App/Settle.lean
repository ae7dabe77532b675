import UrlShortener.App.Basic
import UrlShortener.Visit.Worker

/-
  This file defines the counting of the visits that wait in
  the queue of the service.

  Key definitions include:
    * `App.settle`
-/

namespace UrlShortener

------------------------------------------------------------
-- Settling
------------------------------------------------------------

namespace App

/- Add the results of a worker to the totals. -/
def noteResults (m : Metrics) (worker : Worker) : Metrics :=
  { m with
      visitsRecorded := m.visitsRecorded + worker.recorded
      visitsFailed := m.visitsFailed + worker.failed }

/-
  Take all visits out of the queue and record them. The
  answer is the worker at its end.
-/
def settle
    (rules : RecordingRules)
    (rest : Nat → Nat → Nat)
    (s : App) : Worker × App :=
  let (visits, queue) := s.queue.drain
  let worker := Worker.run rules rest visits s.counter
  (worker,
    { s with
        queue := queue
        counter := worker.counter
        metrics := noteResults s.metrics worker })

end App

end UrlShortener
