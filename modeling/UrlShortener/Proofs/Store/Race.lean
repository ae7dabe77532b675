import UrlShortener.Proofs.Store.History

/-
  Calls of a link store that run at once. A call first looks
  at the closed flag; a save or a look-up that found the
  store open then waits for the lock, and does its work
  behind it in one step. Between any two steps, any others
  may run, and a call may be given up.

  Key definitions include:
    * `GuardedCall`
    * `Race`
    * `RaceMove`
    * `Race.step`
    * `Race.run`

  Main declarations:
    * `Race.Effect`
    * `Race.step_effect`
-/

------------------------------------------------------------
-- Calls Under Way
------------------------------------------------------------

namespace UrlShortener

/- A call that looks at the closed flag. -/
inductive GuardedCall where
| save (new : NewLink)
| find (code : String)
| ping
| close
deriving DecidableEq, Repr

namespace GuardedCall

/- The call, as a store serves it alone. -/
def call : GuardedCall → StoreCall
| .save new => .save new
| .find code => .find code
| .ping => .ping
| .close => .close

/- What a closed store answers. -/
def refused (c : GuardedCall) : StoreAnswer :=
  c.call.refused 0

/- A call that saves a link under a code. -/
def Saves (code : String) : GuardedCall → Prop
| .save new => new.shortCode = code
| _ => False

/- The size of a closed store does not matter to its refusals. -/
theorem call_refused
    (c : GuardedCall)
    (size : Nat) :
    c.call.refused size = c.refused := by
  cases c <;> rfl

end GuardedCall

/-
  A call that was not answered yet: when it began, and
  whether it found the store open and waits for the lock.
  Calls are told apart by the time at which they began.
-/
structure PendingCall where
  begun : Nat
  call : GuardedCall
  admitted : Bool
deriving DecidableEq, Repr

/- A call that was answered with its last step. -/
structure FinishedCall where
  begun : Nat
  ended : Nat
  call : GuardedCall
  admitted : Bool
  answer : StoreAnswer
deriving Repr

/- A call that is answered at a time. -/
def PendingCall.answered
    (p : PendingCall)
    (time : Nat)
    (answer : StoreAnswer) : FinishedCall :=
  { begun := p.begun, ended := time, call := p.call
    admitted := p.admitted, answer }

/- The call, at the time of the clock at which it ended. -/
def FinishedCall.timed
    (clock : Nat → Timestamp)
    (f : FinishedCall) : Timestamp × StoreCall :=
  (clock f.ended, f.call.call)

end UrlShortener

------------------------------------------------------------
-- Races
------------------------------------------------------------

namespace UrlShortener

/-
  Calls that run at once on a store: the number of steps so
  far, the store, and the calls not answered and answered.
-/
structure Race where
  time : Nat
  store : LinkStore
  pending : List PendingCall
  finished : List FinishedCall

/-
  One step of a race: a call begins, or the call that began
  at a time looks at the closed flag, does its work behind
  the lock, or is given up.
-/
inductive RaceMove where
| begin (call : GuardedCall)
| look (begun : Nat)
| enter (begun : Nat)
| cancel (begun : Nat)
deriving DecidableEq, Repr

namespace Race

/- A store that nobody calls. -/
def start (s : LinkStore) : Race :=
  { time := 0, store := s, pending := [], finished := [] }

/- The call that began at a time, if it was not answered. -/
def waiting? (r : Race) (begun : Nat) : Option PendingCall :=
  r.pending.find? fun p => p.begun == begun

/- The calls not answered, without the one of a time. -/
def others (r : Race) (begun : Nat) : List PendingCall :=
  r.pending.filter fun p => p.begun != begun

/- A step that changes nothing. -/
def idle (r : Race) : Race :=
  { r with time := r.time + 1 }

/- Answer a call, and leave a store behind. -/
def finish
    (r : Race)
    (p : PendingCall)
    (result : StoreAnswer × LinkStore) : Race :=
  { time := r.time + 1
    store := result.2
    pending := r.others p.begun
    finished := r.finished ++ [p.answered r.time result.1] }

/- Let a call wait for the lock. -/
def park (r : Race) (p : PendingCall) : Race :=
  { r with
      time := r.time + 1
      pending := r.others p.begun ++
        [{ p with admitted := true }] }

/-
  A call looks at the closed flag. A ping is answered by
  what it sees, and a close sets the flag.
-/
def look (r : Race) (p : PendingCall) : Race :=
  match p.call with
  | .save _ =>
      if r.store.closed then
        r.finish p (.saved (.error .closed), r.store)
      else r.park p
  | .find _ =>
      if r.store.closed then
        r.finish p (.found (.error .closed), r.store)
      else r.park p
  | .ping => r.finish p (.pinged r.store.ping, r.store)
  | .close => r.finish p (.closed (.ok ()), r.store.close)

/- A call that was admitted does its work behind the lock. -/
def enter
    (now : Timestamp)
    (r : Race)
    (p : PendingCall) : Race :=
  match p.call with
  | .save new =>
      r.finish p ((r.store.saveOpen new now).map .saved id)
  | .find code =>
      r.finish p (.found (r.store.findOpen code), r.store)
  | .ping => r.idle
  | .close => r.idle

/- Make a step. One that is not possible changes nothing. -/
def step
    (clock : Nat → Timestamp)
    (r : Race) : RaceMove → Race
| .begin call =>
    { r with
        time := r.time + 1
        pending := r.pending ++
          [{ begun := r.time, call, admitted := false }] }
| .look begun =>
    match r.waiting? begun with
    | some p => if p.admitted then r.idle else r.look p
    | none => r.idle
| .enter begun =>
    match r.waiting? begun with
    | some p =>
        if p.admitted then r.enter (clock r.time) p else r.idle
    | none => r.idle
| .cancel begun =>
    { r with
        time := r.time + 1
        pending := r.others begun }

/- Make steps one after another. -/
def run
    (clock : Nat → Timestamp)
    (moves : List RaceMove)
    (r : Race) : Race :=
  moves.foldl (step clock) r

end Race

end UrlShortener

------------------------------------------------------------
-- The Closed Flag
------------------------------------------------------------

namespace UrlShortener

namespace LinkStore

/- A store with its closed flag set as asked. -/
def withFlag (s : LinkStore) (closed : Bool) : LinkStore :=
  { s with closed := closed }

theorem withFlag_eq_self
    {s : LinkStore}
    {closed : Bool}
    (hFlag : s.closed = closed) :
    s.withFlag closed = s := by
  subst hFlag
  rfl

/- What a save does behind the lock does not hang on the flag. -/
theorem saveOpen_withFlag
    (s : LinkStore)
    (closed : Bool)
    (new : NewLink)
    (now : Timestamp) :
    (s.withFlag closed).saveOpen new now =
      ((s.saveOpen new now).1,
        (s.saveOpen new now).2.withFlag closed) := by
  unfold saveOpen contains insert withFlag
  split
  · rfl
  · rfl

/- Nor does it touch the flag. -/
theorem saveOpen_closed
    (s : LinkStore)
    (new : NewLink)
    (now : Timestamp) :
    (s.saveOpen new now).2.closed = s.closed := by
  unfold saveOpen
  split
  · rfl
  · rfl

end LinkStore

end UrlShortener

------------------------------------------------------------
-- What A Step Can Do
------------------------------------------------------------

namespace UrlShortener

namespace Race

variable {r : Race}

theorem mem_of_waiting?
    {begun : Nat}
    {p : PendingCall}
    (hWaiting : r.waiting? begun = some p) :
    p ∈ r.pending ∧ p.begun = begun := by
  have hBegun : p.begun = begun := by
    simpa using List.find?_some hWaiting
  exact ⟨List.mem_of_find?_eq_some hWaiting, hBegun⟩

theorem mem_of_mem_others
    {begun : Nat}
    {p : PendingCall}
    (hMem : p ∈ r.others begun) :
    p ∈ r.pending ∧ p.begun ≠ begun := by
  simpa [others] using hMem

/- All that a step can make of a race. -/
inductive Effect
    (clock : Nat → Timestamp)
    (r : Race) : Race → Prop where
| idle : Effect clock r r.idle
| began
    (call : GuardedCall) :
    Effect clock r
      { r with
          time := r.time + 1
          pending := r.pending ++
            [{ begun := r.time, call, admitted := false }] }
| cancelled
    (begun : Nat) :
    Effect clock r
      { r with
          time := r.time + 1
          pending := r.others begun }
| parked
    {p : PendingCall}
    (hPending : p ∈ r.pending)
    (hOpen : r.store.closed = false) :
    Effect clock r (r.park p)
| refused
    {p : PendingCall}
    (hPending : p ∈ r.pending)
    (hAdmitted : p.admitted = false)
    (hClosed : r.store.closed = true) :
    Effect clock r
      (r.finish p (p.call.refused, r.store))
| pinged
    {p : PendingCall}
    (hPending : p ∈ r.pending)
    (hAdmitted : p.admitted = false)
    (hOpen : r.store.closed = false)
    (hCall : p.call = .ping) :
    Effect clock r
      (r.finish p (.pinged (.ok ()), r.store))
| closed
    {p : PendingCall}
    (hPending : p ∈ r.pending)
    (hAdmitted : p.admitted = false)
    (hOpen : r.store.closed = false)
    (hCall : p.call = .close) :
    Effect clock r
      (r.finish p (.closed (.ok ()), r.store.close))
| saved
    {p : PendingCall}
    {new : NewLink}
    (hPending : p ∈ r.pending)
    (hAdmitted : p.admitted = true)
    (hCall : p.call = .save new) :
    Effect clock r
      (r.finish p
        ((r.store.saveOpen new (clock r.time)).map
          .saved id))
| found
    {p : PendingCall}
    {code : String}
    (hPending : p ∈ r.pending)
    (hAdmitted : p.admitted = true)
    (hCall : p.call = .find code) :
    Effect clock r
      (r.finish p (.found (r.store.findOpen code), r.store))

/- Looking at the closed flag has one of the effects. -/
theorem look_effect
    (clock : Nat → Timestamp)
    {p : PendingCall}
    (hPending : p ∈ r.pending)
    (hAdmitted : p.admitted = false) :
    Effect clock r (r.look p) := by
  have hRefused :
      r.store.closed = true →
        Effect clock r
          (r.finish p (p.call.refused, r.store)) :=
    fun hClosed => .refused hPending hAdmitted hClosed
  unfold look
  cases hCall : p.call with
  | save new =>
      rw [hCall] at hRefused
      cases hClosed : r.store.closed with
      | true => exact hRefused hClosed
      | false => exact .parked hPending hClosed
  | find code =>
      rw [hCall] at hRefused
      cases hClosed : r.store.closed with
      | true => exact hRefused hClosed
      | false => exact .parked hPending hClosed
  | ping =>
      rw [hCall] at hRefused
      simp only [LinkStore.ping]
      cases hClosed : r.store.closed with
      | true => exact hRefused hClosed
      | false => exact .pinged hPending hAdmitted hClosed hCall
  | close =>
      rw [hCall] at hRefused
      cases hClosed : r.store.closed with
      | true =>
          have hSame : r.store.close = r.store :=
            LinkStore.withFlag_eq_self hClosed
          simp only [hSame]
          exact hRefused hClosed
      | false => exact .closed hPending hAdmitted hClosed hCall

/- Working behind the lock has one of the effects. -/
theorem enter_effect
    (clock : Nat → Timestamp)
    {p : PendingCall}
    (hPending : p ∈ r.pending)
    (hAdmitted : p.admitted = true) :
    Effect clock r (r.enter (clock r.time) p) := by
  unfold enter
  cases hCall : p.call with
  | save new => exact .saved hPending hAdmitted hCall
  | find code => exact .found hPending hAdmitted hCall
  | ping => exact .idle
  | close => exact .idle

/- Every step has one of the effects. -/
theorem step_effect
    (clock : Nat → Timestamp)
    (r : Race)
    (move : RaceMove) :
    Effect clock r (r.step clock move) := by
  cases move with
  | begin call => exact .began call
  | cancel begun => exact .cancelled begun
  | look begun =>
      simp only [step]
      cases hWaiting : r.waiting? begun with
      | none => exact .idle
      | some p =>
          have hPending := (mem_of_waiting? hWaiting).1
          cases hAdmitted : p.admitted with
          | true =>
              simp only [hAdmitted, if_true]
              exact .idle
          | false =>
              simp only [hAdmitted, Bool.false_eq_true,
                if_false]
              exact look_effect clock hPending hAdmitted
  | enter begun =>
      simp only [step]
      cases hWaiting : r.waiting? begun with
      | none => exact .idle
      | some p =>
          have hPending := (mem_of_waiting? hWaiting).1
          cases hAdmitted : p.admitted with
          | true =>
              simp only [hAdmitted, if_true]
              exact enter_effect clock hPending hAdmitted
          | false =>
              simp only [hAdmitted, Bool.false_eq_true,
                if_false]
              exact .idle

/- What every step keeps, every run keeps. -/
theorem run_induction
    (clock : Nat → Timestamp)
    {P : Race → Prop}
    (hStep :
      ∀ {r r' : Race}, P r → Effect clock r r' → P r')
    (moves : List RaceMove)
    {r : Race}
    (hStart : P r) :
    P (run clock moves r) := by
  induction moves generalizing r with
  | nil => exact hStart
  | cons move moves ih =>
      exact ih (hStep hStart (step_effect clock r move))

end Race

end UrlShortener
