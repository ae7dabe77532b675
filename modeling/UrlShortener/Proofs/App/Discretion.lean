import UrlShortener.Proofs.App.Traffic
import UrlShortener.Proofs.Http.LookUps

/-
  Counting never shows. However visits are counted, queued or
  lost, whatever the worker does and whoever asks for counts
  in between, those who create links and follow them are
  answered the same, and the store goes through the same
  states.

  The proof forgets everything about counting, in the state
  and in the dialogues. What is left of a step of a client
  hangs on what was left of the state before it, and what is
  left of any other step is nothing.

  Key definitions include:
    * `Dialogue.bare`
    * `Dialogue.Blind`
    * `App.bare`
    * `Scene`
    * `Scene.step`

  Main declarations:
    * `Dialogue.go_bare`
    * `Scene.step_bare`
    * `Scene.hidden_bare`
    * `Scene.counting_never_shows`
-/

------------------------------------------------------------
-- Dialogues Without Counting
------------------------------------------------------------

namespace UrlShortener

namespace Dialogue

variable {α β : Type}

/- A dialogue without its visits and notes. -/
def bare : Dialogue α → Dialogue α
| .done result => .done result
| .readClock next => .readClock fun t => (next t).bare
| .draw length next => .draw length fun r => (next r).bare
| .save limit new next =>
    .save limit new fun r => (next r).bare
| .find limit code next =>
    .find limit code fun r => (next r).bare
| .count limit code next =>
    .count limit code fun r => (next r).bare
| .probe limit next => .probe limit fun r s => (next r s).bare
| .visit _ next => (next true).bare
| .places next => .places fun free => (next free).bare
| .note _ next => next.bare

/-
  A dialogue that goes on in the same way whether or not its
  visits found a place, and that never asks about counting.
-/
def Blind : Dialogue α → Prop
| .done _ => True
| .readClock next => ∀ t, (next t).Blind
| .draw _ next => ∀ r, (next r).Blind
| .save _ _ next => ∀ r, (next r).Blind
| .find _ _ next => ∀ r, (next r).Blind
| .count _ _ _ => False
| .probe _ _ => False
| .visit _ next =>
    (∀ taken, (next taken).Blind) ∧
      (next true).bare = (next false).bare
| .places _ => False
| .note _ next => next.Blind

theorem bare_bare (d : Dialogue α) : d.bare.bare = d.bare := by
  induction d with
  | done result => rfl
  | readClock next ih =>
      exact congrArg Dialogue.readClock (funext ih)
  | draw length next ih =>
      exact congrArg (Dialogue.draw length) (funext ih)
  | save limit new next ih =>
      exact congrArg (Dialogue.save limit new) (funext ih)
  | find limit code next ih =>
      exact congrArg (Dialogue.find limit code) (funext ih)
  | count limit code next ih =>
      exact congrArg (Dialogue.count limit code) (funext ih)
  | probe limit next ih =>
      exact congrArg (Dialogue.probe limit)
        (funext fun r => funext (ih r))
  | visit code next ih => exact ih true
  | places next ih =>
      exact congrArg Dialogue.places (funext ih)
  | note metric next ih => exact ih

theorem bare_map
    (f : α → β)
    (d : Dialogue α) : (d.map f).bare = d.bare.map f := by
  induction d with
  | done result => rfl
  | readClock next ih => exact congrArg _ (funext ih)
  | draw length next ih => exact congrArg _ (funext ih)
  | save limit new next ih => exact congrArg _ (funext ih)
  | find limit code next ih => exact congrArg _ (funext ih)
  | count limit code next ih => exact congrArg _ (funext ih)
  | probe limit next ih =>
      exact congrArg _ (funext fun r => funext (ih r))
  | visit code next ih => exact ih true
  | places next ih => exact congrArg _ (funext ih)
  | note metric next ih => exact ih

/- What becomes of the result does not matter. -/
theorem Blind.map
    {d : Dialogue α}
    (hBlind : d.Blind)
    (f : α → β) : (d.map f).Blind := by
  induction d with
  | done result => exact True.intro
  | readClock next ih => exact fun t => ih t (hBlind t)
  | draw length next ih => exact fun r => ih r (hBlind r)
  | save limit new next ih => exact fun r => ih r (hBlind r)
  | find limit code next ih => exact fun r => ih r (hBlind r)
  | count limit code next ih => exact hBlind
  | probe limit next ih => exact hBlind
  | visit code next ih =>
      refine ⟨fun taken => ih taken (hBlind.1 taken), ?_⟩
      have hSame := congrArg (Dialogue.map f) hBlind.2
      rw [← bare_map, ← bare_map] at hSame
      exact hSame
  | places next ih => exact hBlind
  | note metric next ih => exact ih hBlind

/- A dialogue without visits and questions is blind. -/
theorem blind_of_within
    {d : Dialogue α}
    (hWithin : d.Within Ask.Creates) : d.Blind := by
  induction d with
  | done result => exact True.intro
  | readClock next ih => exact fun t => ih t (hWithin.2 t)
  | draw length next ih => exact fun r => ih r (hWithin.2 r)
  | save limit new next ih =>
      exact fun r => ih r (hWithin.2 r)
  | find limit code next ih => exact hWithin.1.elim
  | count limit code next ih => exact hWithin.1.elim
  | probe limit next ih => exact hWithin.1.elim
  | visit code next ih => exact hWithin.1.elim
  | places next ih => exact hWithin.1.elim
  | note metric next ih => exact ih hWithin.2

end Dialogue

namespace Shortener

/- A resolution does not mind what became of its visit. -/
theorem resolve_blind
    (policy : Policy)
    (code : String) : (resolve policy code).Blind := by
  unfold resolve
  split
  · exact True.intro
  · intro reply
    dsimp only
    split
    · exact True.intro
    · exact True.intro
    · exact True.intro
    · intro now
      dsimp only
      split
      · exact True.intro
      · refine ⟨?_, rfl⟩
        intro taken
        cases taken with
        | true => exact True.intro
        | false => exact True.intro

end Shortener

end UrlShortener

------------------------------------------------------------
-- States Without Counting
------------------------------------------------------------

namespace UrlShortener

namespace App

/- The state without what has to do with counting. -/
def bare (s : App) : App :=
  { s with
      links := { s.links with pings := [] }
      counter := .fresh
      queue := .empty 0
      metrics := .zero }

/-
  Two states that agree on the links, on the faults of their
  store and on what is drawn and read.
-/
structure SameService (s s' : App) : Prop where
  store : s'.links.store = s.links.store
  saves : s'.links.saves = s.links.saves
  finds : s'.links.finds = s.links.finds
  minter : s'.minter = s.minter
  readings : s'.readings = s.readings
  draws : s'.draws = s.draws

theorem SameService.bare_eq
    {s s' : App}
    (hSame : SameService s s') : s'.bare = s.bare := by
  unfold bare
  dsimp only
  rw [hSame.store, hSame.saves, hSame.finds, hSame.minter,
    hSame.readings, hSame.draws]

theorem store_of_bare
    {s s' : App}
    (hBare : s'.bare = s.bare) :
    s'.links.store = s.links.store := by
  have hStore := congrArg (fun s : App => s.links.store) hBare
  exact hStore

theorem bare_visit
    (s : App)
    (code : String) : (s.visit code).2.bare = s.bare := by
  rw [visit_eq]
  rfl

end App

/- A save does not mind what was forgotten. -/
theorem App.endSave_bare
    (w : Surroundings)
    (came : Option (Option StoreFault))
    (new : NewLink)
    (s : App) :
    s.bare.endSave w came new =
      ((s.endSave w came new).1,
        (s.endSave w came new).2.bare) := by
  rcases came with _ | _ | fault
  · rfl
  · rfl
  · rfl

end UrlShortener

------------------------------------------------------------
-- Single Steps
------------------------------------------------------------

namespace UrlShortener

namespace Dialogue

variable {α : Type}

/- Make visits and notes, up to the next call of another kind. -/
def tell (d : Dialogue α) (s : App) : Dialogue α × App :=
  match d with
  | .visit code next =>
      let offered := s.visit code
      (next offered.1).tell offered.2
  | .note metric next => next.tell (s.note metric)
  | d => (d, s)

/- Make a call, and then the visits and notes after it. -/
def go
    (w : Surroundings)
    (d : Dialogue α)
    (s : App) : Dialogue α × App :=
  match d.proceed? w s with
  | none => (d, s)
  | some (_, rest, s') => rest.tell s'

/- The result of a dialogue that has come to its end. -/
def result? : Dialogue α → Option α
| .done result => some result
| _ => none

/- A dialogue whose visits and notes so far were made. -/
def Settled : Dialogue α → Prop
| .visit _ _ => False
| .note _ _ => False
| _ => True

variable {w : Surroundings} {s s' : App} {d : Dialogue α}

theorem tell_settled (d : Dialogue α) (s : App) :
    (d.tell s).1.Settled := by
  induction d generalizing s with
  | visit code next ih => exact ih _ _
  | note metric next ih => exact ih _
  | _ => exact True.intro

theorem tell_bare_app (d : Dialogue α) (s : App) :
    (d.tell s).2.bare = s.bare := by
  induction d generalizing s with
  | visit code next ih =>
      exact (ih _ _).trans (s.bare_visit code)
  | note metric next ih => exact ih _
  | _ => rfl

theorem Blind.tell
    (hBlind : d.Blind)
    (s : App) : (d.tell s).1.Blind := by
  induction d generalizing s with
  | visit code next ih => exact ih _ (hBlind.1 _) _
  | note metric next ih => exact ih hBlind _
  | _ => exact hBlind

/- Visits and notes are all that is told. -/
theorem Blind.tell_bare
    (hBlind : d.Blind)
    (s : App) : (d.tell s).1.bare = d.bare := by
  induction d generalizing s with
  | visit code next ih =>
      refine (ih _ (hBlind.1 _) _).trans ?_
      cases (s.visit code).1 with
      | true => rfl
      | false => exact hBlind.2.symm
  | note metric next ih => exact ih hBlind _
  | _ => rfl

/- A bare dialogue has nothing to tell. -/
theorem bare_tell (d : Dialogue α) (s : App) :
    d.bare.tell s = (d.bare, s) := by
  induction d generalizing s with
  | visit code next ih => exact ih true s
  | note metric next ih => exact ih s
  | _ => rfl

/- What is left of a dialogue once something was told. -/
theorem Blind.tell_alike
    (hBlind : d.Blind)
    (hBare : s.bare = s'.bare) :
    (d.tell s).1.bare = (d.bare.tell s').1.bare ∧
      (d.tell s).2.bare = (d.bare.tell s').2.bare := by
  rw [hBlind.tell_bare, tell_bare_app, bare_tell, bare_bare]
  exact ⟨rfl, hBare⟩

theorem Blind.go
    (hBlind : d.Blind)
    (s : App) : (d.go w s).1.Blind := by
  cases d with
  | done result => exact hBlind
  | readClock next => exact (hBlind _).tell _
  | draw length next => exact (hBlind _).tell _
  | save limit new next => exact (hBlind _).tell _
  | find limit code next => exact (hBlind _).tell _
  | count limit code next => exact hBlind.elim
  | probe limit next => exact hBlind.elim
  | visit code next => exact (hBlind.1 _).tell _
  | places next => exact hBlind.elim
  | note metric next => exact Blind.tell hBlind _

theorem Settled.result?_bare
    (hSettled : d.Settled) : d.bare.result? = d.result? := by
  cases d with
  | visit code next => exact hSettled.elim
  | note metric next => exact hSettled.elim
  | _ => rfl

theorem Settled.go
    (hSettled : d.Settled)
    (s : App) : (d.go w s).1.Settled := by
  cases d with
  | done result => exact hSettled
  | _ => exact tell_settled _ _

/-
  What is left of a call hangs on what was left of the
  dialogue and of the state alone.
-/
theorem go_bare
    (hBlind : d.Blind)
    (hSettled : d.Settled)
    (s : App) :
    (d.go w s).1.bare = (d.bare.go w s.bare).1.bare ∧
      (d.go w s).2.bare = (d.bare.go w s.bare).2.bare := by
  cases d with
  | done result => exact ⟨rfl, rfl⟩
  | readClock next => exact (hBlind _).tell_alike rfl
  | draw length next => exact (hBlind _).tell_alike rfl
  | save limit new next =>
      have hEnded :=
        s.beginSave.2.endSave_bare w
          (s.beginSave.1.within limit) new
      have hGo :
          (save limit new next).bare.go w s.bare =
            (fun ended : Option (Except StoreFault Link) × App =>
              (next ended.1).bare.tell ended.2)
              (s.beginSave.2.bare.endSave w
                (s.beginSave.1.within limit) new) := rfl
      rw [hGo, hEnded]
      exact (hBlind _).tell_alike rfl
  | find limit code next => exact (hBlind _).tell_alike rfl
  | count limit code next => exact hBlind.elim
  | probe limit next => exact hBlind.elim
  | visit code next => exact hSettled.elim
  | places next => exact hBlind.elim
  | note metric next => exact hSettled.elim

end Dialogue

end UrlShortener

------------------------------------------------------------
-- Scenes
------------------------------------------------------------

namespace UrlShortener

/- A call of the service itself or through HTTP. -/
inductive AppCall where
| service (call : ServiceCall)
| http (trims : Bool) (r : Request)
deriving DecidableEq, Repr

inductive AppAnswer where
| service (answer : ServiceAnswer)
| http (response : Response)
deriving Repr

/- A path that asks for counts, or for the health of all. -/
def Route.observes : Route → Bool
| .health => true
| .stats _ => true
| _ => false

namespace AppCall

def dialogue (site : Site) : AppCall → Dialogue AppAnswer
| .service call => (call.dialogue site.policy).map .service
| .http trims r => (site.respond trims r).map .http

/- A call that asks for counts, or for the health of all. -/
def observes : AppCall → Bool
| .service (.stats _) => true
| .service _ => false
| .http trims r =>
    (Route.ofPath? (Site.seen trims r)).any Route.observes

end AppCall

/-
  The service with its worker and those who have called it,
  in the order in which they did. Those who create links and
  follow them are kept apart from those who observe.
-/
structure Scene where
  app : App
  worker : Worker
  clients : List (Dialogue AppAnswer)
  observers : List (Dialogue AppAnswer)

/-
  One step of a scene: somebody calls, the client or the
  observer of a number goes on, or the worker does, under
  whatever rules.
-/
inductive SceneMove where
| begin (call : AppCall)
| client (n : Nat)
| observer (n : Nat)
| work
    (rules : RecordingRules)
    (rest : Nat → Nat → Nat)
    (move : WorkerMove)

/- The moves of clients. -/
def SceneMove.shows : SceneMove → Bool
| .begin call => !call.observes
| .client _ => true
| .observer _ => false
| .work _ _ _ => false

namespace Scene

variable (site : Site) (w : Surroundings)

/- A service that nobody has called. -/
def start (app : App) : Scene :=
  { app, worker := Worker.init [] app.counter, clients := []
    observers := [] }

/- Begin a call, with the visits and notes in front of it. -/
def begin (call : AppCall) (t : Scene) : Scene :=
  let begun := (call.dialogue site).tell t.app
  if call.observes then
    { t with app := begun.2, observers := t.observers ++ [begun.1] }
  else
    { t with app := begun.2, clients := t.clients ++ [begun.1] }

def goClient (n : Nat) (t : Scene) : Scene :=
  match t.clients[n]? with
  | none => t
  | some d =>
      let went := d.go w t.app
      { t with app := went.2, clients := t.clients.set n went.1 }

def goObserver (n : Nat) (t : Scene) : Scene :=
  match t.observers[n]? with
  | none => t
  | some d =>
      let went := d.go w t.app
      { t with
          app := went.2
          observers := t.observers.set n went.1 }

def work
    (rules : RecordingRules)
    (rest : Nat → Nat → Nat)
    (move : WorkerMove)
    (t : Scene) : Scene :=
  let worked :=
    Traffic.work
      { surroundings := w, policy := site.policy, rules, rest }
      { app := t.app, worker := t.worker, tickets := [] } move
  { t with app := worked.app, worker := worked.worker }

/- Make a step. One that is not possible changes nothing. -/
def step (t : Scene) : SceneMove → Scene
| .begin call => t.begin site call
| .client n => t.goClient w n
| .observer n => t.goObserver w n
| .work rules rest move => t.work site w rules rest move

/- Make steps one after another. -/
def run (t : Scene) (moves : List SceneMove) : Scene :=
  moves.foldl (step site w) t

/- What the clients were answered so far. -/
def answers (t : Scene) : List (Option AppAnswer) :=
  t.clients.map Dialogue.result?

/- The states of the store after the moves of clients. -/
def stores : Scene → List SceneMove → List LinkStore
| _, [] => []
| t, move :: moves =>
    let t' := t.step site w move
    if move.shows then
      t'.app.links.store :: t'.stores moves
    else
      t'.stores moves

end Scene

end UrlShortener

------------------------------------------------------------
-- Calls Of Clients And Observers
------------------------------------------------------------

namespace UrlShortener

/- Asking about counting alone. -/
def Ask.Watches : Ask → Prop
| .count _ => True
| .probe => True
| .places => True
| .visit _ => True
| .note _ => True
| _ => False

namespace AppCall

variable {site : Site} {call : AppCall}

theorem reading_blind
    (r : Request)
    {d : Dialogue Response}
    (hBlind : d.Blind) : (Site.reading r d).Blind := by
  unfold Site.reading
  split
  · exact hBlind
  · split
    · exact hBlind.map _
    · exact True.intro

/- Those who create links and follow them are blind. -/
theorem blind
    (hClient : call.observes = false) :
    (call.dialogue site).Blind := by
  cases call with
  | service call =>
      apply Dialogue.Blind.map
      cases call with
      | create request =>
          exact (Dialogue.blind_of_within
            (Shortener.create_within _ request)).map _
      | resolve code =>
          exact (Shortener.resolve_blind _ code).map _
      | stats code => cases hClient
  | http trims r =>
      apply Dialogue.Blind.map
      rw [Site.respond_eq]
      rw [observes] at hClient
      unfold Site.answer
      cases hRoute : Route.ofPath? (Site.seen trims r) with
      | none => exact True.intro
      | some route =>
          rw [hRoute] at hClient
          cases route with
          | health => cases hClient
          | links =>
              dsimp only
              split
              · unfold Site.create
                split
                · exact True.intro
                · exact (Dialogue.blind_of_within
                    (Shortener.create_within _ _)).map _
              · exact True.intro
          | stats segment => cases hClient
          | code segment =>
              apply reading_blind
              unfold Site.follow
              split
              · exact True.intro
              · split
                · exact (Shortener.resolve_blind _ _).map _
                · exact True.intro

/- Those who observe ask about counting alone. -/
theorem watches
    (hObserver : call.observes = true) :
    (call.dialogue site).Within Ask.Watches := by
  have hStats (code : String) :
      (Shortener.stats site.policy code).Within
        Ask.Watches := by
    refine (Shortener.stats_within _ code).mono ?_
    rintro a rfl
    exact True.intro
  cases call with
  | service call =>
      apply Dialogue.Within.map
      cases call with
      | stats code => exact (hStats code).map _
      | _ => cases hObserver
  | http trims r =>
      apply Dialogue.Within.map
      rw [Site.respond_eq]
      rw [observes] at hObserver
      unfold Site.answer
      cases hRoute : Route.ofPath? (Site.seen trims r) with
      | none =>
          rw [hRoute] at hObserver
          cases hObserver
      | some route =>
          rw [hRoute] at hObserver
          cases route with
          | health =>
              apply Site.reading_within
              exact ⟨True.intro, fun _ _ =>
                ⟨True.intro, fun _ => True.intro⟩⟩
          | stats segment =>
              apply Site.reading_within
              unfold Site.stats
              split
              · exact True.intro
              · exact (hStats _).map _
          | _ => cases hObserver

end AppCall

end UrlShortener

------------------------------------------------------------
-- What Is Left Of Steps
------------------------------------------------------------

namespace UrlShortener

namespace Dialogue

variable {α : Type} {w : Surroundings} {s : App}
variable {d : Dialogue α}

theorem Within.tell
    {P : Ask → Prop}
    (hWithin : d.Within P)
    (s : App) : (d.tell s).1.Within P := by
  induction d generalizing s with
  | visit code next ih => exact ih _ (hWithin.2 _) _
  | note metric next ih => exact ih hWithin.2 _
  | _ => exact hWithin

theorem Within.go
    {P : Ask → Prop}
    (hWithin : d.Within P)
    (s : App) : (d.go w s).1.Within P := by
  unfold Dialogue.go
  split
  · exact hWithin
  · rename_i hStep
    exact (hWithin.feed (feed?_of_proceed? hStep)).tell _

/- An observer leaves no trace but in what is counted. -/
theorem go_bare_of_watches
    (hWatches : d.Within Ask.Watches)
    (s : App) : (d.go w s).2.bare = s.bare := by
  cases d with
  | done result => rfl
  | readClock next => exact hWatches.1.elim
  | draw length next => exact hWatches.1.elim
  | save limit new next => exact hWatches.1.elim
  | find limit code next => exact hWatches.1.elim
  | visit code next =>
      exact (tell_bare_app _ _).trans (s.bare_visit code)
  | _ => exact tell_bare_app _ _

end Dialogue

namespace Scene

/-
  Clients are blind and observers ask about counting alone,
  and what clients had to tell was told.
-/
structure Orderly (t : Scene) : Prop where
  blind : ∀ d ∈ t.clients, d.Blind
  settled : ∀ d ∈ t.clients, d.Settled
  watching : ∀ d ∈ t.observers, d.Within Ask.Watches

/- What is left of a scene without counting. -/
def bare (t : Scene) : App × List (Dialogue AppAnswer) :=
  (t.app.bare, t.clients.map Dialogue.bare)

variable (site : Site) (w : Surroundings)
variable {t t' : Scene} {move : SceneMove}

theorem forall_mem_set
    {α : Type}
    {P : α → Prop}
    {xs : List α}
    {n : Nat}
    {x : α}
    (hAll : ∀ a ∈ xs, P a)
    (hNew : P x) : ∀ a ∈ xs.set n x, P a := by
  intro a hMem
  rcases List.mem_or_eq_of_mem_set hMem with hOld | rfl
  · exact hAll a hOld
  · exact hNew

theorem orderly_start (app : App) : (start app).Orderly :=
  ⟨nofun, nofun, nofun⟩

theorem Orderly.begin
    (hOrderly : t.Orderly)
    (call : AppCall) : (t.begin site call).Orderly := by
  unfold Scene.begin
  cases hCall : call.observes with
  | true =>
      exact
        { hOrderly with
            watching := List.forall_mem_append.mpr
              ⟨hOrderly.watching, List.forall_mem_singleton.mpr
                ((AppCall.watches hCall).tell _)⟩ }
  | false =>
      exact
        { hOrderly with
            blind := List.forall_mem_append.mpr
              ⟨hOrderly.blind, List.forall_mem_singleton.mpr
                ((AppCall.blind hCall).tell _)⟩
            settled := List.forall_mem_append.mpr
              ⟨hOrderly.settled, List.forall_mem_singleton.mpr
                (Dialogue.tell_settled _ _)⟩ }

theorem Orderly.step
    (hOrderly : t.Orderly)
    (move : SceneMove) : (t.step site w move).Orderly := by
  cases move with
  | begin call => exact hOrderly.begin site call
  | client n =>
      unfold Scene.step goClient
      dsimp only
      split
      · exact hOrderly
      · rename_i d hClient
        have hMem := List.mem_of_getElem? hClient
        have hBlind := hOrderly.blind d hMem
        have hSettled := hOrderly.settled d hMem
        exact
          { hOrderly with
              blind := forall_mem_set hOrderly.blind
                (hBlind.go _)
              settled := forall_mem_set hOrderly.settled
                (hSettled.go _) }
  | observer n =>
      unfold Scene.step goObserver
      dsimp only
      split
      · exact hOrderly
      · rename_i d hObserver
        have hWatches :=
          hOrderly.watching d (List.mem_of_getElem? hObserver)
        exact
          { hOrderly with
              watching := forall_mem_set hOrderly.watching
                (hWatches.go _) }
  | work rules rest move => exact { hOrderly with }

theorem Orderly.run
    (hOrderly : t.Orderly)
    (moves : List SceneMove) : (t.run site w moves).Orderly := by
  induction moves generalizing t with
  | nil => exact hOrderly
  | cons move moves ih => exact ih (hOrderly.step site w move)

/- The worker and observers leave nothing behind. -/
theorem hidden_bare
    (hOrderly : t.Orderly)
    (hHidden : move.shows = false) :
    (t.step site w move).bare = t.bare := by
  have hSame
      {t' : Scene}
      (hApp : t'.app.bare = t.app.bare)
      (hClients : t'.clients = t.clients) :
      t'.bare = t.bare := by
    rw [bare, hApp, hClients]
    rfl
  cases move with
  | client n => cases hHidden
  | begin call =>
      have hObserver : call.observes = true := by
        simpa [SceneMove.shows] using hHidden
      refine hSame ?_ ?_
      · unfold Scene.step Scene.begin
        dsimp only
        rw [if_pos hObserver]
        exact Dialogue.tell_bare_app _ _
      · unfold Scene.step Scene.begin
        dsimp only
        rw [if_pos hObserver]
  | observer n =>
      unfold Scene.step goObserver
      dsimp only
      split
      · rfl
      · rename_i d hObserver
        exact hSame
          (Dialogue.go_bare_of_watches
            (hOrderly.watching d
              (List.mem_of_getElem? hObserver)) _) rfl
  | work rules rest move =>
      refine hSame ?_ rfl
      cases move with
      | receive =>
          unfold Scene.step Scene.work Traffic.work
          dsimp only
          unfold Traffic.receive
          split
          · rfl
          · rfl
      | _ => rfl

/- A client that calls leaves its call behind. -/
theorem begin_bare
    {call : AppCall}
    (hClient : call.observes = false)
    (t : Scene) :
    (t.begin site call).bare =
      (t.app.bare,
        t.clients.map Dialogue.bare ++
          [(call.dialogue site).bare]) := by
  have hBlind : (call.dialogue site).Blind :=
    AppCall.blind hClient
  unfold Scene.begin bare
  dsimp only
  rw [hClient, if_neg Bool.false_ne_true, List.map_append,
    List.map_singleton, Dialogue.tell_bare_app,
    hBlind.tell_bare]

/- One that goes on leaves what hangs on what was left. -/
theorem goClient_bare
    (hOrderly : t.Orderly)
    (hOrderly' : t'.Orderly)
    (hBare : t'.bare = t.bare)
    (n : Nat) :
    (t'.goClient w n).bare = (t.goClient w n).bare := by
  have hApp : t'.app.bare = t.app.bare :=
    congrArg Prod.fst hBare
  have hClients :
      t'.clients.map Dialogue.bare =
        t.clients.map Dialogue.bare :=
    congrArg Prod.snd hBare
  have hNth :
      t'.clients[n]?.map Dialogue.bare =
        t.clients[n]?.map Dialogue.bare := by
    rw [← List.getElem?_map, hClients, List.getElem?_map]
  unfold goClient
  cases hClient : t.clients[n]? with
  | none =>
      rw [hClient, Option.map_none, Option.map_eq_none_iff]
        at hNth
      rw [hNth]
      exact hBare
  | some d =>
      rw [hClient, Option.map_some, Option.map_eq_some_iff]
        at hNth
      rcases hNth with ⟨d', hClient', hSame⟩
      have hMem := List.mem_of_getElem? hClient
      have hMem' := List.mem_of_getElem? hClient'
      have hWent := Dialogue.go_bare (w := w)
        (hOrderly.blind d hMem)
        (hOrderly.settled d hMem) t.app
      have hWent' := Dialogue.go_bare (w := w)
        (hOrderly'.blind d' hMem')
        (hOrderly'.settled d' hMem') t'.app
      rw [hSame, hApp] at hWent'
      rw [hClient']
      unfold bare
      dsimp only
      rw [List.map_set, List.map_set, hClients, hWent'.1,
        hWent'.2, hWent.1, hWent.2]

/- So does every move of a client. -/
theorem step_bare
    (hOrderly : t.Orderly)
    (hOrderly' : t'.Orderly)
    (hBare : t'.bare = t.bare)
    (hShows : move.shows = true) :
    (t'.step site w move).bare = (t.step site w move).bare := by
  cases move with
  | begin call =>
      have hClient : call.observes = false := by
        simpa [SceneMove.shows] using hShows
      refine (begin_bare site hClient t').trans ?_
      refine Eq.trans ?_ (begin_bare site hClient t).symm
      exact congrArg
        (fun left : App × List (Dialogue AppAnswer) =>
          (left.1, left.2 ++ [(call.dialogue site).bare])) hBare
  | client n => exact goClient_bare w hOrderly hOrderly' hBare n
  | observer n => cases hShows
  | work rules rest move => cases hShows

/- What is left of a run is left of its moves of clients. -/
theorem run_bare
    (hOrderly : t.Orderly)
    (hOrderly' : t'.Orderly)
    (hBare : t'.bare = t.bare)
    (moves : List SceneMove) :
    (t'.run site w (moves.filter SceneMove.shows)).bare =
      (t.run site w moves).bare := by
  induction moves generalizing t t' with
  | nil => exact hBare
  | cons move moves ih =>
      have hNext := hOrderly.step site w move
      cases hShows : move.shows with
      | true =>
          rw [List.filter_cons_of_pos hShows]
          exact ih hNext (hOrderly'.step site w move)
            (step_bare site w hOrderly hOrderly' hBare hShows)
      | false =>
          rw [List.filter_cons_of_neg (by simp [hShows])]
          exact ih hNext hOrderly'
            (hBare.trans
              (hidden_bare site w hOrderly hShows).symm)

/- So are the states of the store on the way. -/
theorem stores_bare
    (hOrderly : t.Orderly)
    (hOrderly' : t'.Orderly)
    (hBare : t'.bare = t.bare)
    (moves : List SceneMove) :
    t'.stores site w (moves.filter SceneMove.shows) =
      t.stores site w moves := by
  induction moves generalizing t t' with
  | nil => rfl
  | cons move moves ih =>
      have hNext := hOrderly.step site w move
      rw [stores]
      cases hShows : move.shows with
      | true =>
          have hLeft :=
            step_bare site w hOrderly hOrderly' hBare hShows
          rw [List.filter_cons_of_pos hShows, stores, hShows,
            if_pos rfl, if_pos rfl,
            ih hNext (hOrderly'.step site w move) hLeft,
            App.store_of_bare (congrArg Prod.fst hLeft)]
      | false =>
          rw [List.filter_cons_of_neg (by simp [hShows]),
            if_neg Bool.false_ne_true]
          exact ih hNext hOrderly'
            (hBare.trans
              (hidden_bare site w hOrderly hShows).symm)

/- Clients were answered what is left of their answers. -/
theorem answers_bare
    (hOrderly : t.Orderly)
    (hOrderly' : t'.Orderly)
    (hBare : t'.bare = t.bare) : t'.answers = t.answers := by
  have hLeft
      {t : Scene}
      (hOrderly : t.Orderly) :
      t.answers = t.bare.2.map Dialogue.result? := by
    rw [answers, bare, List.map_map]
    refine List.map_congr_left ?_
    intro d hMem
    exact (hOrderly.settled d hMem).result?_bare.symm
  rw [hLeft hOrderly, hLeft hOrderly', hBare]

/-
  Take two runs of the service that differ in nothing but in
  counting: in the counter and its faults, in the queue, in
  the totals, in what the worker does and in who observes.
  Clients that make the same moves are answered the same in
  both, the store goes through the same states, and only
  the moves of clients change it.
-/
theorem counting_never_shows
    {app app' : App}
    (hSame : app.SameService app')
    {moves moves' : List SceneMove}
    (hMoves :
      moves'.filter SceneMove.shows =
        moves.filter SceneMove.shows) :
    let t := (start app).run site w moves
    let t' := (start app').run site w moves'
    t'.answers = t.answers ∧
      (start app').stores site w moves' =
        (start app).stores site w moves ∧
      ∀ move, move.shows = false →
        (t.step site w move).app.links.store =
          t.app.links.store := by
  intro t t'
  have hStart : (start app').bare = (start app).bare :=
    congrArg (fun s : App => (s, [])) hSame.bare_eq
  have hRun : t'.bare = t.bare := by
    have hLeft :=
      run_bare site w (orderly_start app) (orderly_start app')
        hStart moves
    have hLeft' :=
      run_bare site w (orderly_start app') (orderly_start app')
        rfl moves'
    rw [← hLeft, ← hMoves, hLeft']
  have hOrderly := (orderly_start app).run site w moves
  have hOrderly' := (orderly_start app').run site w moves'
  refine ⟨answers_bare hOrderly hOrderly' hRun, ?_, ?_⟩
  · have hLeft :=
      stores_bare site w (orderly_start app)
        (orderly_start app') hStart moves
    have hLeft' :=
      stores_bare site w (orderly_start app')
        (orderly_start app') rfl moves'
    rw [← hLeft, ← hMoves, hLeft']
  · intro move hHidden
    exact App.store_of_bare (congrArg Prod.fst
      (hidden_bare site w hOrderly hHidden))

/-
  A link is created and followed: while nothing else goes on,
  and while the counter is out of order, the queue is closed
  and somebody asks for the count.
-/
def sampleApp : App :=
  App.init (.listed [.given "abc"]) 1

def sampleOutage : App :=
  { sampleApp with
      counter :=
        { tally := ⟨[("abc", 7)]⟩
          increments := [.never]
          gets := [.answers 0 (some (.timeout ⟨0⟩))]
          pings := [] }
      queue := .empty 0 }

def sampleCreation : AppCall :=
  .service (.create
    { longUrl := "http://[::]"
      originalUrl := none
      userId := none
      expireAt := none })

def sampleMoves : List SceneMove :=
  [.begin sampleCreation, .client 0, .client 0, .client 0,
    .begin (.service (.resolve "abc")), .client 1, .client 1]

def sampleBusyMoves : List SceneMove :=
  [.begin (.service (.stats "abc")),
    .begin sampleCreation, .client 0, .client 0,
    .work .usual (fun _ _ => 0) .stop, .client 0,
    .observer 0, .begin (.service (.resolve "abc")),
    .client 1, .work .usual (fun _ _ => 0) .receive,
    .client 1, .work .usual (fun _ _ => 0) .start]

def sampleSite : Site := ⟨.usual, 1000⟩

def sampleSurroundings : Surroundings :=
  ⟨fun n => ⟨0, n, 0⟩, fun _ _ => 0⟩

def sampleQuiet : Scene :=
  (start sampleApp).run sampleSite sampleSurroundings
    sampleMoves

def sampleBusy : Scene :=
  (start sampleOutage).run sampleSite sampleSurroundings
    sampleBusyMoves

theorem sample_outage_never_shows :
    sampleApp.SameService sampleOutage ∧
      sampleBusyMoves.filter SceneMove.shows =
        sampleMoves.filter SceneMove.shows ∧
      sampleQuiet.answers.map Option.isSome = [true, true] ∧
      sampleBusy.answers = sampleQuiet.answers := by
  have hSame : sampleApp.SameService sampleOutage :=
    ⟨rfl, rfl, rfl, rfl, rfl, rfl⟩
  have hMoves :
      sampleBusyMoves.filter SceneMove.shows =
        sampleMoves.filter SceneMove.shows := rfl
  have hAnswered :
      sampleQuiet.answers.map Option.isSome =
        [true, true] := by
    decide +kernel
  exact ⟨hSame, hMoves, hAnswered,
    (counting_never_shows sampleSite sampleSurroundings hSame
      hMoves).1⟩

end Scene

end UrlShortener
