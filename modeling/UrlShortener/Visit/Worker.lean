import UrlShortener.Visit.Recording

/-
  This file defines the worker that records the visits taken
  out of the queue. It starts them in the order of the queue
  as long as the number under way stays within bounds, and
  otherwise goes on with those that are due first.

  Key definitions include:
    * `Worker`
    * `Worker.startVisits`
    * `Worker.wakeDue`
    * `Worker.run`
    * `Worker.record`
-/

namespace UrlShortener

------------------------------------------------------------
-- The worker
------------------------------------------------------------

/-
  The worker at a time: the visits not started, those under
  way, the results of those that are over, the calls made so
  far and the most calls that were under way at once.
-/
structure Worker where
  now : Nat
  started : Nat
  waiting : List String
  underWay : List Recording
  results : List (String × Except CounterFault Unit)
  calls : Nat
  peak : Nat
  counter : CounterBackend

namespace Worker

/- A worker with visits to record. -/
def init (visits : List String) (b : CounterBackend) : Worker :=
  { now := 0, started := 0, waiting := visits, underWay := []
    results := [], calls := 0, peak := 0, counter := b }

/- The calls under way. -/
def calling (w : Worker) : Nat :=
  (w.underWay.filter Recording.isCalling).length

end Worker

------------------------------------------------------------
-- Steps
------------------------------------------------------------

namespace Worker

/- Note a call about to be made. -/
def noteCall (w : Worker) : Worker :=
  { w with calls := w.calls + 1, peak := max w.peak (w.calling + 1) }

/- Note how a recording went on. -/
def noteCourse
    (code : String)
    (w : Worker) :
    Course × CounterBackend → Worker
| (.ended result, b) =>
    { w with results := w.results ++ [(code, result)], counter := b }
| (.waiting r, b) =>
    { w with underWay := w.underWay ++ [r], counter := b }

/- Start the recording of a visit. -/
def startVisit
    (rules : RecordingRules)
    (rest : Nat → Nat → Nat)
    (code : String)
    (w : Worker) : Worker :=
  let course :=
    Recording.start rules rest w.now w.started code w.counter
  { w.noteCall with started := w.started + 1 }.noteCourse
    code course

/- Start visits while fewer than the most are under way. -/
def startVisits
    (rules : RecordingRules)
    (rest : Nat → Nat → Nat) :
    List String → Worker → Worker
| [], w => { w with waiting := [] }
| code :: later, w =>
    if w.underWay.length < max 1 rules.concurrency then
      startVisits rules rest later (w.startVisit rules rest code)
    else
      { w with waiting := code :: later }

/- Go on with a recording that is due. -/
def wakeOne
    (rules : RecordingRules)
    (rest : Nat → Nat → Nat)
    (w : Worker)
    (r : Recording) : Worker :=
  let course := r.wake rules rest w.counter
  let calls : Bool :=
    match r.awaited with
    | .retry at_ => at_ ≤ r.limit
    | .answer _ _ => false
  let w := if calls then w.noteCall else w
  w.noteCourse r.code course

/- The time at which the first recordings are due. -/
def nextDue? (w : Worker) : Option Nat :=
  (w.underWay.map Recording.due).min?

/- Go on with all recordings that are due at a time. -/
def wakeDue
    (rules : RecordingRules)
    (rest : Nat → Nat → Nat)
    (time : Nat)
    (w : Worker) : Worker :=
  let due := w.underWay.filter fun r => r.due == time
  let left := w.underWay.filter fun r => r.due != time
  due.foldl (wakeOne rules rest)
    { w with now := time, underWay := left }

end Worker

------------------------------------------------------------
-- Runs
------------------------------------------------------------

namespace Worker

/-
  Run the worker until no visit is left. The fuel bounds the
  number of times at which recordings are due.
-/
def loop
    (rules : RecordingRules)
    (rest : Nat → Nat → Nat) :
    Nat → Worker → Worker
| 0, w => w
| fuel + 1, w =>
    let w := w.startVisits rules rest w.waiting
    match w.nextDue? with
    | none => w
    | some time => loop rules rest fuel (w.wakeDue rules rest time)

/-
  A recording waits at most twice for each reply that is not
  prompt success: for the answer and for the rest after it.
-/
def fuelFor (b : CounterBackend) : Nat :=
  2 * b.increments.length + 1

/- Record visits until none is left. -/
def run
    (rules : RecordingRules)
    (rest : Nat → Nat → Nat)
    (visits : List String)
    (b : CounterBackend) : Worker :=
  loop rules rest (fuelFor b) (init visits b)

/- The number of visits recorded. -/
def recorded (w : Worker) : Nat :=
  (w.results.filter fun r => r.2.isOk).length

/- The number of visits given up. -/
def failed (w : Worker) : Nat :=
  (w.results.filter fun r => !r.2.isOk).length

/- Record a single visit. -/
def record
    (rules : RecordingRules)
    (rest : Nat → Nat → Nat)
    (code : String)
    (b : CounterBackend) : Worker :=
  run rules rest [code] b

end Worker

end UrlShortener
