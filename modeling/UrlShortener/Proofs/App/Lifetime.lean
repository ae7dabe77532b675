import Mathlib.Logic.Relation
import UrlShortener.Proofs.App.Conservation
import UrlShortener.Proofs.App.Traffic

/-
  What may become of the service as time goes by. Dialogues
  make their calls, the backends choose how to reply to the
  calls to come, the worker takes visits and counts them,
  and the store or the queue is closed, in any order. What
  was closed stays closed.

  Key definitions include:
    * `App.Happens`
    * `App.Reaches`
    * `App.KeepsClosed`
    * `Lifetime`
    * `Standing.EndsAt`

  Main declarations:
    * `App.Happens.keepsClosed`
    * `App.Reaches.keepsClosed`
    * `Dialogue.run_reaches`
    * `Journal.run_reaches`
    * `Traffic.run_reaches`
-/

------------------------------------------------------------
-- What May Happen
------------------------------------------------------------

namespace UrlShortener

namespace App

/-
  One thing that happens to the service: a dialogue makes a
  call, the replies to come are others, the worker has taken
  visits or noted what became of them, or somebody closes
  the store or the queue.
-/
inductive Happens (w : Surroundings) : App → App → Prop
| called
    {α : Type}
    {d d' : Dialogue α}
    {e : Event}
    {s s' : App}
    (hStep : d.proceed? w s = some (e, d', s')) :
    Happens w s s'
| awaited
    {s : App}
    {links : StoreBackend}
    {counter : CounterBackend}
    (hStore : links.store = s.links.store)
    (hTally : counter.tally = s.counter.tally) :
    Happens w s { s with links := links, counter := counter }
| worked
    (s : App)
    (waiting : List String)
    (counter : CounterBackend)
    (metrics : Metrics) :
    Happens w s
      { s with
          queue := { s.queue with waiting := waiting }
          counter := counter
          metrics := metrics }
| closedStore (s : App) :
    Happens w s
      { s with
          links := { s.links with store := s.links.store.close } }
| closedQueue (s : App) :
    Happens w s { s with queue := s.queue.close }

/- A state that may follow on another. -/
def Reaches (w : Surroundings) : App → App → Prop :=
  Relation.ReflTransGen (Happens w)

end App

namespace Dialogue

variable {α : Type} {w : Surroundings}

/- A run is a sequence of calls. -/
theorem run_reaches
    (d : Dialogue α)
    (s : App) : s.Reaches w (d.run w s).2 :=
  run_induction (P := fun _ s' => s.Reaches w s')
    (fun hReaches hStep => hReaches.tail (.called hStep)) .refl

end Dialogue

namespace Journal

variable {w : Surroundings} {site : Site}
variable {rules : RecordingRules}

/- A step of the service is something that may happen. -/
theorem step_reaches
    (j : Journal)
    (next : AppStep) :
    j.app.Reaches w (j.step w site rules next).app := by
  cases next with
  | create request => exact Dialogue.run_reaches _ _
  | resolve code =>
      rw [step, resolve, noteResolution_app]
      exact Dialogue.run_reaches _ _
  | stats code => exact Dialogue.run_reaches _ _
  | http r =>
      rw [step, answer_app]
      exact Dialogue.run_reaches _ _
  | httpTrimmed r =>
      rw [step, answer_app]
      exact Dialogue.run_reaches _ _
  | settle rest => exact .single (.worked _ _ _ _)
  | close => exact .single (.closedQueue _)

/- So is every run. -/
theorem run_reaches
    (j : Journal)
    (steps : List AppStep) :
    j.app.Reaches w (j.run w site rules steps).app := by
  induction steps generalizing j with
  | nil => exact .refl
  | cons next steps ih =>
      exact (step_reaches j next).trans (ih _)

end Journal

namespace Traffic

variable {c : Conditions}

/- Nothing else happens when calls go on at once. -/
theorem step_reaches
    (t : Traffic)
    (move : TrafficMove) :
    t.app.Reaches c.surroundings (t.step c move).app := by
  cases move with
  | begin call => exact .refl
  | go n =>
      unfold step
      dsimp only
      split
      · exact .refl
      · split
        · exact .refl
        · rename_i hStep
          exact .single (.called hStep)
  | work move =>
      cases move with
      | receive =>
          unfold step work receive
          dsimp only
          split
          · exact .refl
          · exact .single (.worked _ _ _ _)
      | start => exact .single (.worked _ _ _ _)
      | wake time => exact .single (.worked _ _ _ _)
      | report => exact .single (.worked _ _ _ _)
      | stop => exact .single (.closedQueue _)

theorem run_reaches
    (t : Traffic)
    (moves : List TrafficMove) :
    t.app.Reaches c.surroundings (t.run c moves).app := by
  induction moves generalizing t with
  | nil => exact .refl
  | cons move moves ih =>
      exact (step_reaches t move).trans (ih _)

end Traffic

end UrlShortener

------------------------------------------------------------
-- What Stays Closed
------------------------------------------------------------

namespace UrlShortener

/- A call leaves the queue as open or closed as it was. -/
theorem Dialogue.queue_closed_of_proceed?
    {α : Type}
    {w : Surroundings}
    {s s' : App}
    {d d' : Dialogue α}
    {e : Event}
    (hStep : d.proceed? w s = some (e, d', s')) :
    s'.queue.closed = s.queue.closed := by
  cases d with
  | visit code next =>
      cases hStep
      unfold App.visit VisitQueue.offer?
      split
      · rename_i queue hOffer
        split at hOffer
        · cases hOffer
        · cases hOffer
          rfl
      · rfl
  | done result => cases hStep
  | _ =>
      cases hStep
      rfl

/- A call leaves the store so, too. -/
theorem Dialogue.store_closed_of_proceed?
    {α : Type}
    {w : Surroundings}
    {s s' : App}
    {d d' : Dialogue α}
    {e : Event}
    (hStep : d.proceed? w s = some (e, d', s')) :
    s'.links.store.closed = s.links.store.closed := by
  rcases proceed?_store_cases hStep with
    ⟨hSame, _⟩ | ⟨_, _, _, _, _, _, hStore⟩
  · rw [hSame]
  · rw [hStore]
    rfl

namespace App

/- A state in which what was closed before still is. -/
structure KeepsClosed (s s' : App) : Prop where
  store :
    s.links.store.closed = true → s'.links.store.closed = true
  queue : s.queue.closed = true → s'.queue.closed = true

variable {w : Surroundings} {s s' : App}

theorem Happens.keepsClosed
    (hHappens : Happens w s s') : s.KeepsClosed s' := by
  cases hHappens with
  | called hStep =>
      exact
        ⟨(Dialogue.store_closed_of_proceed? hStep).trans,
          (Dialogue.queue_closed_of_proceed? hStep).trans⟩
  | awaited hStore hTally =>
      exact ⟨(congrArg LinkStore.closed hStore).trans, id⟩
  | worked => exact ⟨id, id⟩
  | closedStore => exact ⟨fun _ => rfl, id⟩
  | closedQueue => exact ⟨id, fun _ => rfl⟩

theorem Reaches.keepsClosed
    (hReaches : s.Reaches w s') : s.KeepsClosed s' := by
  induction hReaches with
  | refl => exact ⟨id, id⟩
  | tail _ hHappens ih =>
      exact
        ⟨hHappens.keepsClosed.store ∘ ih.store,
          hHappens.keepsClosed.queue ∘ ih.queue⟩

end App

end UrlShortener

------------------------------------------------------------
-- Lifetimes
------------------------------------------------------------

namespace UrlShortener

/-
  The states of the service from a time on, one for every
  millisecond.
-/
structure Lifetime (w : Surroundings) (now : Nat) (s : App) where
  states : Nat → App
  start : states now = s
  goesOn :
    ∀ t, now ≤ t → (states t).Reaches w (states (t + 1))

namespace Lifetime

variable {w : Surroundings} {now : Nat} {s : App}

/- The service turns into another once some time has gone by. -/
def once
    {s' : App}
    (hReaches : s.Reaches w s')
    (now elapsed : Nat) : Lifetime w now s where
  states := fun t => if t ≤ now + elapsed then s else s'
  start := if_pos (Nat.le_add_right now elapsed)
  goesOn := by
    intro t _
    by_cases hBefore : t + 1 ≤ now + elapsed
    · rw [if_pos hBefore, if_pos (Nat.le_of_succ_le hBefore)]
      exact .refl
    · rw [if_neg hBefore]
      split
      · exact hReaches
      · exact .refl

/- What is reached at a later time. -/
theorem reaches
    (life : Lifetime w now s)
    (elapsed : Nat) :
    s.Reaches w (life.states (now + elapsed)) := by
  induction elapsed with
  | zero =>
      rw [Nat.add_zero, life.start]
      exact .refl
  | succ elapsed ih =>
      exact ih.trans (life.goesOn _ (Nat.le_add_right _ _))

end Lifetime

/-
  What waits at a time comes to its end later, with a
  result, and leaves the states that it finds as they are.
-/
inductive Standing.EndsAt
    {α : Type}
    (w : Surroundings)
    (states : Nat → App) :
    Nat → Standing α → Nat → α → Prop
| ended {now : Nat} {result : α} :
    EndsAt w states now (.ended result) now result
| looked
    {now until_ time : Nat}
    {next : App → Wait α}
    {result : α}
    (hLater : now ≤ until_)
    (hThen :
      EndsAt w states until_
        (.waiting (next (states until_))) time result) :
    EndsAt w states now (.waiting (.look until_ next)) time
      result
| went
    {now until_ time : Nat}
    {resume : App → Dialogue α × App}
    {d : Dialogue α}
    {standing : Standing α}
    {result : α}
    (hLater : now ≤ until_)
    (hGo : resume (states until_) = (d, states until_))
    (hRest :
      d.advance w until_ (states until_) =
        (standing, states until_))
    (hThen : EndsAt w states until_ standing time result) :
    EndsAt w states now (.waiting (.go until_ resume)) time
      result

end UrlShortener
