import UrlShortener.Backend.Counter

/-
  This file defines the recording of one visit: the counter
  is called until a call succeeds, with growing rests after
  the calls that fail, as long as neither the retries nor
  the time for the visit have run out.

  Key definitions include:
    * `RecordingRules`
    * `RecordingRules.restBound`
    * `Recording`
    * `Recording.due`
    * `Recording.start`
    * `Recording.wake`
-/

namespace UrlShortener

------------------------------------------------------------
-- Rules
------------------------------------------------------------

/-
  How visits are recorded: how many at a time, how many
  milliseconds each may take with its retries, and how often
  a call is made again.
-/
structure RecordingRules where
  concurrency : Nat
  limit : Nat
  retries : Nat
deriving DecidableEq, Repr

namespace RecordingRules

/- The usual rules. -/
def usual : RecordingRules :=
  { concurrency := 4, limit := 2000, retries := 3 }

/-
  What the rest before a retry is shorter than, with the
  retries numbered from zero.
-/
def restBound (retry : Nat) : Nat :=
  min (Nat.pow 10 (retry + 1)) 250

end RecordingRules

------------------------------------------------------------
-- Recordings under way
------------------------------------------------------------

/- What a recording waits for. -/
inductive Awaited where
| answer (at_ : Option Nat) (fault : Option CounterFault)
| retry (at_ : Nat)
deriving DecidableEq, Repr

/-
  A recording under way: its number, the code that was
  visited, the time by which it has to be over, the calls
  made so far and what it waits for.
-/
structure Recording where
  number : Nat
  code : String
  limit : Nat
  calls : Nat
  awaited : Awaited
deriving DecidableEq, Repr

namespace Recording

/- When the awaited comes, if ever. -/
def comes? (r : Recording) : Option Nat :=
  match r.awaited with
  | .answer at_ _ => at_
  | .retry at_ => some at_

/- When the recording goes on: at the latest at its limit. -/
def due (r : Recording) : Nat :=
  match r.comes? with
  | some at_ => min at_ r.limit
  | none => r.limit

/- A call that is under way. -/
def isCalling (r : Recording) : Bool :=
  match r.awaited with
  | .answer _ _ => true
  | .retry _ => false

end Recording

------------------------------------------------------------
-- The course of a recording
------------------------------------------------------------

/- How a recording goes on: it ends or waits again. -/
inductive Course where
| ended (result : Except CounterFault Unit)
| waiting (recording : Recording)

namespace Recording

/-
  Take the answer of a call at a time. After a fault there
  is a rest, unless the retries are used up.
-/
def answered
    (rules : RecordingRules)
    (rest : Nat → Nat → Nat)
    (now : Nat)
    (fault : Option CounterFault)
    (r : Recording)
    (b : CounterBackend) : Course × CounterBackend :=
  match fault with
  | none => (.ended (.ok ()), b.increment r.code)
  | some fault =>
      if r.calls ≤ rules.retries then
        let pause := rest r.number (r.calls - 1)
        (.waiting { r with awaited := .retry (now + pause) }, b)
      else
        (.ended (.error fault), b)

/- Call the counter at a time. -/
def call
    (rules : RecordingRules)
    (rest : Nat → Nat → Nat)
    (now : Nat)
    (r : Recording)
    (b : CounterBackend) : Course × CounterBackend :=
  let (reply, b) := b.beginIncrement
  let r := { r with calls := r.calls + 1 }
  match reply with
  | .answers 0 fault => answered rules rest now fault r b
  | .answers after fault =>
      (.waiting
        { r with awaited := .answer (some (now + after)) fault },
        b)
  | .never =>
      (.waiting { r with awaited := .answer none none }, b)

/- Start a recording at a time. -/
def start
    (rules : RecordingRules)
    (rest : Nat → Nat → Nat)
    (now number : Nat)
    (code : String)
    (b : CounterBackend) : Course × CounterBackend :=
  call rules rest now
    { number, code, limit := now + rules.limit, calls := 0
      awaited := .retry now }
    b

/- The end of a recording that took too long. -/
def overdue (rules : RecordingRules) : Course :=
  .ended (.error (.timeout (Span.ofMillis rules.limit)))

/-
  Go on with a recording when it is due. What comes right at
  the limit still counts.
-/
def wake
    (rules : RecordingRules)
    (rest : Nat → Nat → Nat)
    (r : Recording)
    (b : CounterBackend) : Course × CounterBackend :=
  match r.awaited with
  | .answer none _ => (overdue rules, b)
  | .answer (some at_) fault =>
      if at_ ≤ r.limit then answered rules rest at_ fault r b
      else (overdue rules, b)
  | .retry at_ =>
      if at_ ≤ r.limit then call rules rest at_ r b
      else (overdue rules, b)

end Recording

end UrlShortener
