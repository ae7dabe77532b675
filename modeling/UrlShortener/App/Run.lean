import UrlShortener.App.Basic

/-
  This file defines how dialogues run on the state of the
  service: alone from start to end, or many at once, where
  the dialogues that wait go on in the order in which their
  waits are over.

  Key definitions include:
    * `Dialogue.run`
    * `Wait`
    * `Wait.forPings`
    * `Dialogue.advance`
    * `Crowd`
    * `Dialogue.runTogether`
-/

namespace UrlShortener

------------------------------------------------------------
-- Alone
------------------------------------------------------------

namespace Dialogue

variable {α : Type}

/- Run a dialogue from start to end. -/
def run
    (w : Surroundings)
    (d : Dialogue α)
    (s : App) : α × App :=
  match d with
  | .done a => (a, s)
  | .readClock next =>
      let (now, s) := s.readClock w
      run w (next now) s
  | .draw length next =>
      let (code, s) := s.draw w length
      run w (next code) s
  | .save limit new next =>
      let (reply, s) := s.beginSave
      let (link, s) := s.endSave w (reply.within limit) new
      run w (next link) s
  | .find limit code next =>
      let (reply, s) := s.beginFind
      run w (next (s.links.endFind (reply.within limit) code)) s
  | .count limit code next =>
      let (reply, s) := s.beginCount
      run w
        (next (s.counter.endGet (reply.within limit) code)) s
  | .probe limit next =>
      let ((ofStore, ofCounter), s) := s.beginProbe
      run w
        (next (s.links.endPing (ofStore.within limit))
          (CounterBackend.endPing (ofCounter.within limit))) s
  | .visit code next =>
      let (taken, s) := s.visit code
      run w (next taken) s
  | .places next => run w (next s.places) s
  | .note metric next => run w next (s.note metric)

end Dialogue

------------------------------------------------------------
-- Waits
------------------------------------------------------------

/-
  A dialogue that waits: until when, and what it does then.
  It goes on, or it only looks at the state and waits on.
-/
inductive Wait (α : Type) where
| go (until_ : Nat) (resume : App → Dialogue α × App)
| look (until_ : Nat) (next : App → Wait α)

namespace Wait

variable {α : Type}

/- When the wait is over. -/
def until_ : Wait α → Nat
| .go until_ _ => until_
| .look until_ _ => until_

/-
  Wait for two pings that began in a state. The store is
  asked when its own ping is over, and the dialogue goes on
  when both are.
-/
def forPings
    {β : Type}
    (now first both : Nat)
    (s : App)
    (ask : App → β)
    (next : β → Dialogue α) : Wait α :=
  let answered := fun heard =>
    Wait.go (now + both) fun later => (next heard, later)
  if first = 0 then answered (ask s)
  else if first = both then
    .go (now + both) fun s => (next (ask s), s)
  else
    .look (now + first) fun s => answered (ask s)

end Wait

/- Where a dialogue stands: it has ended or it waits. -/
inductive Standing (α : Type) where
| ended (result : α)
| waiting (wait : Wait α)

namespace Dialogue

variable {α : Type}

/-
  Go on with a dialogue from a time, up to its end or to the
  first call that takes time.
-/
def advance
    (w : Surroundings)
    (now : Nat)
    (d : Dialogue α)
    (s : App) : Standing α × App :=
  match d with
  | .done a => (.ended a, s)
  | .readClock next =>
      let (t, s) := s.readClock w
      advance w now (next t) s
  | .draw length next =>
      let (code, s) := s.draw w length
      advance w now (next code) s
  | .save limit new next =>
      let (reply, s) := s.beginSave
      let came := reply.within limit
      if reply.wait limit = 0 then
        let (link, s) := s.endSave w came new
        advance w now (next link) s
      else
        (.waiting
          (.go (now + reply.wait limit) fun s =>
            let (link, s) := s.endSave w came new
            (next link, s)), s)
  | .find limit code next =>
      let (reply, s) := s.beginFind
      let came := reply.within limit
      if reply.wait limit = 0 then
        advance w now (next (s.links.endFind came code)) s
      else
        (.waiting
          (.go (now + reply.wait limit) fun s =>
            (next (s.links.endFind came code), s)), s)
  | .count limit code next =>
      let (reply, s) := s.beginCount
      let came := reply.within limit
      if reply.wait limit = 0 then
        advance w now (next (s.counter.endGet came code)) s
      else
        (.waiting
          (.go (now + reply.wait limit) fun s =>
            (next (s.counter.endGet came code), s)), s)
  | .probe limit next =>
      let ((ofStore, ofCounter), s) := s.beginProbe
      let first := ofStore.wait limit
      let both := max first (ofCounter.wait limit)
      let ask := fun (s : App) =>
        s.links.endPing (ofStore.within limit)
      if both = 0 then
        advance w now
          (next (s.links.endPing (ofStore.within limit))
            (CounterBackend.endPing (ofCounter.within limit))) s
      else
        (.waiting
          (.forPings now first both s ask fun heard =>
            next heard
              (CounterBackend.endPing
                (ofCounter.within limit))), s)
  | .visit code next =>
      let (taken, s) := s.visit code
      advance w now (next taken) s
  | .places next => advance w now (next s.places) s
  | .note metric next => advance w now next (s.note metric)

end Dialogue

------------------------------------------------------------
-- Together
------------------------------------------------------------

/-
  Dialogues that run at once: the time, the state, the
  results so far and the dialogues that wait, in the order
  in which they began to.
-/
structure Crowd (α : Type) where
  now : Nat
  state : App
  results : List α
  waiting : List (Wait α)

namespace Crowd

variable {α : Type}

/- Note where a dialogue stands. -/
def place (c : Crowd α) : Standing α × App → Crowd α
| (.ended a, s) => { c with state := s, results := a :: c.results }
| (.waiting wait, s) =>
    { c with state := s, waiting := c.waiting ++ [wait] }

/- Start a dialogue. -/
def join
    (w : Surroundings)
    (c : Crowd α)
    (d : Dialogue α) : Crowd α :=
  c.place (d.advance w c.now c.state)

/- Go on with the dialogue whose wait is over first. -/
def step? (w : Surroundings) (c : Crowd α) : Option (Crowd α) :=
  match (c.waiting.map Wait.until_).min? with
  | none => none
  | some time =>
      match c.waiting.find? fun p => p.until_ == time with
      | none => none
      | some wait =>
          let left := c.waiting.eraseP fun p => p.until_ == time
          let c := { c with now := time, waiting := left }
          match wait with
          | .go _ resume =>
              let (d, s) := resume c.state
              some (c.place (d.advance w time s))
          | .look _ next =>
              some (c.place (.waiting (next c.state), c.state))

/- Go on until no dialogue waits, within a number of steps. -/
def settle (w : Surroundings) : Nat → Crowd α → Crowd α
| 0, c => c
| fuel + 1, c =>
    match c.step? w with
    | none => c
    | some next => settle w fuel next

end Crowd

namespace App

/-
  The replies that may keep a dialogue waiting. Every wait
  takes one of them.
-/
def repliesLeft (s : App) : Nat :=
  s.links.saves.length + s.links.finds.length
    + s.links.pings.length + s.counter.gets.length
    + s.counter.pings.length

end App

namespace Dialogue

variable {α : Type}

/-
  Run dialogues at once, started one after another. The
  results come in the order in which the dialogues end.
-/
def runTogether
    (w : Surroundings)
    (ds : List (Dialogue α))
    (s : App) : List α × App :=
  let start : Crowd α :=
    { now := 0, state := s, results := [], waiting := [] }
  let end_ :=
    (ds.foldl (Crowd.join w) start).settle w s.repliesLeft
  (end_.results.reverse, end_.state)

end Dialogue

end UrlShortener
