import Mathlib
import UrlShortener.Proofs.Visit.Poll
import UrlShortener.Proofs.Visit.Worker

/-
  A worker and the recordings that it spawns, each of which
  goes on by itself. The worker takes a visit out of its
  queue, waits for a permit, spawns the recording and reaps
  what has ended; once the queue has hung up, it joins the
  recordings that are left and returns. A recording keeps its
  permit from when it is spawned until it has ended.

  One of them moves at a time, and nothing says which is
  next: the runs of a shift are all the orders in which the
  recordings can start, go on and end. Polls that find a
  recording waiting change nothing and are no moves.

  Key definitions include:
    * `Shift`
    * `Shift.Move`
    * `Shift.Run`
    * `Shift.Orderly`
    * `Shift.left`

  Main declarations:
    * `Shift.Orderly.move`
    * `Shift.Move.left_lt`
    * `Shift.Orderly.exists_move`
    * `Shift.Run.length_le`
    * `Shift.Orderly.can_return`
    * `Shift.Move.well`
-/

------------------------------------------------------------
-- Shifts
------------------------------------------------------------

namespace UrlShortener

/-
  What the worker itself is at: it waits for a visit, holds
  one until there is a permit, reaps the recordings that
  have ended, joins those that are left, or has returned.
-/
inductive Stage where
| receiving
| holding (code : String)
| reaping
| joining
| returned

namespace Stage

/- The visits taken out of the queue but not spawned yet. -/
def held : Stage → List String
| .holding code => [code]
| _ => []

/- No visits are to come any more. -/
def HungUp : Stage → Prop
| .joining => True
| .returned => True
| _ => False

end Stage

/-
  A shift at a time: the visits in the queue, the permits
  left, the visits spawned so far, the recordings that have
  not started yet with their numbers, those under way, the
  numbers of those that have given their permit back, those
  that can be joined and those joined, and the results.
-/
structure Shift where
  stage : Stage
  queue : List String
  permits : Nat
  spawned : List String
  fresh : List (Nat × String)
  underWay : List Recording
  closing : Nat
  finished : Nat
  joined : Nat
  now : Nat
  results : List (String × Except CounterFault Unit)
  counter : CounterBackend

namespace Shift

/- A shift that has visits to record and no more to come. -/
def start
    (rules : RecordingRules)
    (visits : List String)
    (b : CounterBackend) : Shift :=
  { stage := .receiving, queue := visits
    permits := max 1 rules.concurrency
    spawned := [], fresh := [], underWay := []
    closing := 0, finished := 0, joined := 0
    now := 0, results := [], counter := b }

/- The recordings that are spawned and not over. -/
def inFlight (s : Shift) : Nat :=
  s.fresh.length + s.underWay.length

/- The part of a shift that the books of a worker are about. -/
def worker (s : Shift) : Worker :=
  { Worker.init [] s.counter with
      underWay := s.underWay
      results := s.results }

/-
  Note how a recording went on. When it has ended, it gives
  its permit back.
-/
def noteCourse
    (code : String)
    (s : Shift) :
    Course × CounterBackend → Shift
| (.ended result, b) =>
    { s with
        results := s.results ++ [(code, result)]
        permits := s.permits + 1
        closing := s.closing + 1
        counter := b }
| (.waiting r, b) =>
    { s with underWay := s.underWay ++ [r], counter := b }

@[simp] theorem noteCourse_worker
    (s : Shift)
    (code : String)
    (course : Course × CounterBackend) :
    (s.noteCourse code course).worker =
      s.worker.noteCourse code course := by
  rcases course with ⟨_ | _, _⟩
  · rfl
  · rfl

end Shift

end UrlShortener

------------------------------------------------------------
-- Moves
------------------------------------------------------------

namespace UrlShortener

namespace Shift

/-
  The moves of the worker, then those of the recordings: a
  recording starts, goes on, or can be joined after it gave
  its permit back. Time does not run backwards.
-/
inductive Move
    (rules : RecordingRules)
    (rest : Nat → Nat → Nat) : Shift → Shift → Prop where
| receive
    {s : Shift}
    {code : String}
    {later : List String}
    (hStage : s.stage = .receiving)
    (hQueue : s.queue = code :: later) :
    Move rules rest s
      { s with stage := .holding code, queue := later }
| hangUp
    {s : Shift}
    (hStage : s.stage = .receiving)
    (hQueue : s.queue = []) :
    Move rules rest s { s with stage := .joining }
| spawn
    {s : Shift}
    {code : String}
    {permits : Nat}
    (hStage : s.stage = .holding code)
    (hPermits : s.permits = permits + 1) :
    Move rules rest s
      { s with
          stage := .reaping
          permits := permits
          spawned := s.spawned ++ [code]
          fresh := s.fresh ++ [(s.spawned.length, code)] }
| reap
    {s : Shift}
    {finished : Nat}
    (hStage : s.stage = .reaping)
    (hFinished : s.finished = finished + 1) :
    Move rules rest s
      { s with finished := finished, joined := s.joined + 1 }
| resume
    {s : Shift}
    (hStage : s.stage = .reaping)
    (hFinished : s.finished = 0) :
    Move rules rest s { s with stage := .receiving }
| join
    {s : Shift}
    {finished : Nat}
    (hStage : s.stage = .joining)
    (hFinished : s.finished = finished + 1) :
    Move rules rest s
      { s with finished := finished, joined := s.joined + 1 }
| leave
    {s : Shift}
    (hStage : s.stage = .joining)
    (hFlight : s.inFlight = 0)
    (hClosing : s.closing = 0)
    (hFinished : s.finished = 0) :
    Move rules rest s { s with stage := .returned }
| start
    {s : Shift}
    {number now : Nat}
    {code : String}
    {before after : List (Nat × String)}
    (hFresh : s.fresh = before ++ (number, code) :: after)
    (hNow : s.now ≤ now) :
    Move rules rest s
      ({ s with
          now := now
          fresh := before ++ after }.noteCourse code
        (Recording.start rules rest now number code
          s.counter))
| poll
    {s : Shift}
    {now : Nat}
    {r : Recording}
    {before after : List Recording}
    {course : Course × CounterBackend}
    (hUnderWay : s.underWay = before ++ r :: after)
    (hNow : s.now ≤ now)
    (hPoll : r.poll? rules rest now s.counter = some course) :
    Move rules rest s
      ({ s with
          now := now
          underWay := before ++ after }.noteCourse r.code
        course)
| finish
    {s : Shift}
    {closing : Nat}
    (hClosing : s.closing = closing + 1) :
    Move rules rest s
      { s with closing := closing, finished := s.finished + 1 }

/- A run of a shift with the number of its moves. -/
inductive Run
    (rules : RecordingRules)
    (rest : Nat → Nat → Nat) : Nat → Shift → Shift → Prop where
| stay (s : Shift) : Run rules rest 0 s s
| move
    {n : Nat}
    {s t u : Shift}
    (hRun : Run rules rest n s t)
    (hMove : Move rules rest t u) : Run rules rest (n + 1) s u

namespace Run

variable {rules : RecordingRules} {rest : Nat → Nat → Nat}
variable {m n : Nat} {s t u : Shift}

theorem once (hMove : Move rules rest s t) :
    Run rules rest 1 s t :=
  (Run.stay s).move hMove

theorem trans
    (hFirst : Run rules rest m s t)
    (hSecond : Run rules rest n t u) :
    Run rules rest (m + n) s u := by
  induction hSecond with
  | stay => exact hFirst
  | move _ hMove ih => exact (ih hFirst).move hMove

/- What every move keeps, a run keeps. -/
theorem keeps
    {P : Shift → Prop}
    (hMove : ∀ {s t}, Move rules rest s t → P s → P t)
    (hRun : Run rules rest n s t)
    (hStart : P s) : P t := by
  induction hRun with
  | stay => exact hStart
  | move _ hLast ih => exact hMove hLast (ih hStart)

end Run

end Shift

end UrlShortener

------------------------------------------------------------
-- The Order Of A Shift
------------------------------------------------------------

namespace UrlShortener

namespace Shift

/-
  What holds throughout a shift that began with a counter
  and visits, while some recordings, given by their codes,
  are out because they are just going on. Each permit is
  left or with a recording; each visit is spawned, held or
  in the queue; the books of what was spawned are in order;
  and each result is of a recording that can be joined, or
  soon can, or has been.
-/
structure Orderly
    (rules : RecordingRules)
    (visits : List String)
    (b : CounterBackend)
    (out : List String)
    (s : Shift) : Prop where
  permits :
    s.permits + (s.inFlight + out.length) =
      max 1 rules.concurrency
  order : s.spawned ++ (s.stage.held ++ s.queue) = visits
  drained : s.stage.HungUp → s.queue = []
  books :
    s.worker.Books b s.spawned (out ++ s.fresh.map Prod.snd)
  accounts :
    s.closing + s.finished + s.joined = s.results.length
  returned :
    s.stage = .returned →
      s.inFlight + out.length + s.closing + s.finished = 0

variable {rules : RecordingRules} {rest : Nat → Nat → Nat}
variable {visits out : List String} {b : CounterBackend}
variable {s t : Shift}

namespace Orderly

theorem start
    (rules : RecordingRules)
    (visits : List String)
    (b : CounterBackend) :
    (Shift.start rules visits b).Orderly rules visits b [] where
  permits := rfl
  order := rfl
  drained := nofun
  books :=
    ⟨List.Perm.refl _, fun _ => rfl, List.Subset.refl _⟩
  accounts := rfl
  returned := nofun

/- A recording that starts is out. -/
theorem takeFresh
    {number : Nat}
    {code : String}
    {before after : List (Nat × String)}
    (hOrderly : s.Orderly rules visits b [])
    (hFresh : s.fresh = before ++ (number, code) :: after)
    (now : Nat) :
    { s with now := now, fresh := before ++ after }.Orderly
      rules visits b [code] := by
  have hFlight :
      s.inFlight =
        (before ++ after).length + s.underWay.length + 1 := by
    simp only [inFlight, hFresh, List.length_append,
      List.length_cons]
    omega
  constructor
  case permits =>
    rw [← hOrderly.permits, hFlight]
    rfl
  case order => exact hOrderly.order
  case drained => exact hOrderly.drained
  case books =>
    have hBooks := hOrderly.books
    refine ⟨List.Perm.trans ?_ hBooks.codes, hBooks.counted,
      hBooks.replies⟩
    have hTaken :
        ((number, code) :: (before ++ after)).Perm s.fresh := by
      rw [hFresh]
      exact List.perm_middle.symm
    exact ((hTaken.map Prod.snd).append_left _).append_left _
  case accounts => exact hOrderly.accounts
  case returned =>
    intro hStage
    have hNone := hOrderly.returned hStage
    omega

/- A recording that is polled is out. -/
theorem takeUnderWay
    {r : Recording}
    {before after : List Recording}
    (hOrderly : s.Orderly rules visits b [])
    (hUnderWay : s.underWay = before ++ r :: after)
    (now : Nat) :
    { s with now := now, underWay := before ++ after }.Orderly
      rules visits b [r.code] := by
  have hFlight :
      s.inFlight =
        s.fresh.length + (before ++ after).length + 1 := by
    simp only [inFlight, hUnderWay, List.length_append,
      List.length_cons]
    omega
  constructor
  case permits =>
    rw [← hOrderly.permits, hFlight]
    rfl
  case order => exact hOrderly.order
  case drained => exact hOrderly.drained
  case books =>
    have hBooks := hOrderly.books
    refine ⟨List.Perm.trans ?_ hBooks.codes, hBooks.counted,
      hBooks.replies⟩
    have hTaken : (r :: (before ++ after)).Perm s.underWay := by
      rw [hUnderWay]
      exact List.perm_middle.symm
    apply List.Perm.append_left
    exact List.perm_middle.trans
      ((hTaken.map Recording.code).append_right
        (s.fresh.map Prod.snd))
  case accounts => exact hOrderly.accounts
  case returned =>
    intro hStage
    have hNone := hOrderly.returned hStage
    omega

/- How a recording goes on leaves the shift in order. -/
theorem noteCourse
    {code : String}
    {course : Course × CounterBackend}
    (hOrderly : s.Orderly rules visits b [code])
    (hCourse : Course.Books code s.counter.tally course)
    (hReplies :
      course.2.increments ⊆ s.counter.increments) :
    (s.noteCourse code course).Orderly rules visits b [] := by
  -- The worker has not returned while a recording is out.
  have hStage : s.stage ≠ .returned := by
    intro hStage
    have hNone := hOrderly.returned hStage
    rw [List.length_singleton] at hNone
    omega
  have hBooks := hOrderly.books.noteCourse hCourse hReplies
  rw [← noteCourse_worker] at hBooks
  have hPermits := hOrderly.permits
  have hAccounts := hOrderly.accounts
  rcases course with ⟨result | r, c⟩
  · refine ⟨?_, hOrderly.order, hOrderly.drained, hBooks, ?_,
      fun hReturned => absurd hReturned hStage⟩
    · simp only [Shift.noteCourse, inFlight, List.length_nil,
        List.length_singleton] at hPermits ⊢
      omega
    · simp only [Shift.noteCourse, List.length_append,
        List.length_singleton]
      omega
  · refine ⟨?_, hOrderly.order, hOrderly.drained, hBooks,
      hAccounts, fun hReturned => absurd hReturned hStage⟩
    simp only [Shift.noteCourse, inFlight, List.length_append,
      List.length_nil, List.length_singleton] at hPermits ⊢
    omega

/- The worker may turn to other things, the visits in order. -/
theorem turn
    {stage : Stage}
    {queue : List String}
    (hOrderly : s.Orderly rules visits b [])
    (hOrder : stage.held ++ queue = s.stage.held ++ s.queue)
    (hDrained : stage.HungUp → queue = [])
    (hReturned :
      stage = .returned →
        s.inFlight + 0 + s.closing + s.finished = 0) :
    { s with stage := stage, queue := queue }.Orderly rules
      visits b [] where
  permits := hOrderly.permits
  order := by
    rw [hOrder]
    exact hOrderly.order
  drained := hDrained
  books := hOrderly.books
  accounts := hOrderly.accounts
  returned := hReturned

/- What has ended is taken out of the set of the worker. -/
theorem collect
    {finished : Nat}
    (hOrderly : s.Orderly rules visits b [])
    (hFinished : s.finished = finished + 1) :
    { s with
        finished := finished
        joined := s.joined + 1 }.Orderly rules visits b [] where
  permits := hOrderly.permits
  order := hOrderly.order
  drained := hOrderly.drained
  books := hOrderly.books
  accounts := by
    rw [← hOrderly.accounts, hFinished]
    dsimp only
    omega
  returned := by
    intro hStage
    have hNone := hOrderly.returned hStage
    omega

/- Every move leaves the shift in order. -/
theorem move
    (hMove : Move rules rest s t)
    (hOrderly : s.Orderly rules visits b []) :
    t.Orderly rules visits b [] := by
  cases hMove with
  | receive hStage hQueue =>
      apply hOrderly.turn
      · rw [hStage, hQueue]
        rfl
      · nofun
      · nofun
  | hangUp hStage hQueue =>
      apply hOrderly.turn
      · rw [hStage]
        rfl
      · exact fun _ => hQueue
      · nofun
  | spawn hStage hPermits =>
      refine ⟨?_, ?_, nofun, ?_, hOrderly.accounts, nofun⟩
      · rw [← hOrderly.permits, hPermits]
        simp only [inFlight, List.length_append,
          List.length_singleton]
        omega
      · have hOrder := hOrderly.order
        rw [hStage] at hOrder
        rw [← hOrder, List.append_assoc]
        rfl
      · have hBooks := hOrderly.books
        refine ⟨?_, hBooks.counted, hBooks.replies⟩
        refine List.Perm.trans ?_
          (hBooks.codes.append_right _)
        simp [worker]
  | reap _ hFinished => exact hOrderly.collect hFinished
  | resume hStage hFinished =>
      apply hOrderly.turn
      · rw [hStage]
        rfl
      · nofun
      · nofun
  | join _ hFinished => exact hOrderly.collect hFinished
  | leave hStage hFlight hClosing hFinished =>
      apply hOrderly.turn
      · rw [hStage]
        rfl
      · intro _
        apply hOrderly.drained
        rw [hStage]
        trivial
      · intro _
        rw [hFlight, hClosing, hFinished]
  | start hFresh hNow =>
      exact (hOrderly.takeFresh hFresh _).noteCourse
        (Recording.start_books rules rest _ _ _ _)
        (Recording.call_increments_subset rules rest _ _ _)
  | poll hUnderWay hNow hPoll =>
      exact (hOrderly.takeUnderWay hUnderWay _).noteCourse
        (Recording.poll?_books hPoll)
        (Recording.poll?_increments_subset hPoll)
  | finish hClosing =>
      refine ⟨hOrderly.permits, hOrderly.order,
        hOrderly.drained, hOrderly.books, ?_, ?_⟩
      · rw [← hOrderly.accounts, hClosing]
        dsimp only
        omega
      · intro hReturned
        have hNone := hOrderly.returned hReturned
        omega

end Orderly

end Shift

end UrlShortener

------------------------------------------------------------
-- The Moves That Are Left
------------------------------------------------------------

namespace UrlShortener

/- How many moves of the worker a stage asks for. -/
def Stage.weight (rules : RecordingRules) : Stage → Nat
| .receiving => 2
| .holding _ => 2 * rules.retries + 8
| .reaping => 3
| .joining => 1
| .returned => 0

namespace Shift

/-
  A bound on the moves that are left. A visit in the queue is
  received, spawned and reaped around, and its recording
  starts, goes on as often as it can, can be joined and is.
-/
def left (rules : RecordingRules) (s : Shift) : Nat :=
  s.stage.weight rules +
    s.queue.length * (2 * rules.retries + 7) +
    s.fresh.length * (2 * rules.retries + 4) +
    (s.underWay.map fun r => r.turns rules + 2).sum +
    2 * s.closing + s.finished

variable {rules : RecordingRules} {rest : Nat → Nat → Nat}
variable {s t : Shift}

theorem left_start
    (rules : RecordingRules)
    (visits : List String)
    (b : CounterBackend) :
    (start rules visits b).left rules =
      visits.length * (2 * rules.retries + 7) + 2 := by
  simp only [left, start, Stage.weight, List.length_nil,
    List.map_nil, List.sum_nil]
  omega

/- What becomes of a recording is left to do. -/
theorem noteCourse_left
    (s : Shift)
    (code : String)
    (course : Course × CounterBackend) :
    (s.noteCourse code course).left rules =
      s.left rules + (course.1.turns rules + 2) := by
  rcases course with ⟨result | r, b⟩
  · simp only [noteCourse, left, Course.turns]
    omega
  · simp only [noteCourse, left, Course.turns,
      List.map_append, List.map_cons, List.map_nil,
      List.sum_append, List.sum_cons, List.sum_nil]
    omega

/- After every move fewer are left. -/
theorem Move.left_lt
    (hMove : Move rules rest s t) :
    t.left rules < s.left rules := by
  cases hMove with
  | receive hStage hQueue =>
      simp only [left, hStage, hQueue, Stage.weight,
        List.length_cons, Nat.succ_mul]
      omega
  | hangUp hStage hQueue =>
      simp only [left, hStage, Stage.weight]
      omega
  | spawn hStage hPermits =>
      simp only [left, hStage, Stage.weight,
        List.length_append, List.length_singleton,
        Nat.succ_mul]
      omega
  | reap hStage hFinished =>
      simp only [left, hFinished]
      omega
  | resume hStage hFinished =>
      simp only [left, hStage, Stage.weight]
      omega
  | join hStage hFinished =>
      simp only [left, hFinished]
      omega
  | leave hStage hFlight hClosing hFinished =>
      simp only [left, hStage, Stage.weight]
      omega
  | start hFresh hNow =>
      rename_i number now code before after
      -- It has made no call before the one it starts with.
      have hTurns :
          (Recording.start rules rest now number code
            s.counter).1.turns rules ≤
              2 * rules.retries + 1 :=
        Recording.call_turns rules rest now _ s.counter
      rw [noteCourse_left]
      simp only [left, hFresh, List.length_append,
        List.length_cons, Nat.add_mul, Nat.one_mul]
      omega
  | poll hUnderWay hNow hPoll =>
      have hTurns := Recording.poll?_turns hPoll
      rw [noteCourse_left]
      simp only [left, hUnderWay, List.map_append,
        List.map_cons, List.sum_append, List.sum_cons]
      omega
  | finish hClosing =>
      simp only [left, hClosing]
      omega

/- No run is longer than the moves that were left. -/
theorem Run.length_le
    {n : Nat}
    (hRun : Run rules rest n s t) :
    n + t.left rules ≤ s.left rules := by
  induction hRun with
  | stay s => exact Nat.le_of_eq (Nat.zero_add _)
  | move _ hMove ih =>
      have hLess := hMove.left_lt
      omega

end Shift

end UrlShortener

------------------------------------------------------------
-- No Shift Is Stuck
------------------------------------------------------------

namespace UrlShortener

namespace Shift

variable {rules : RecordingRules} {rest : Nat → Nat → Nat}
variable {visits : List String} {b : CounterBackend}
variable {s : Shift}

/-
  A recording in flight can start or, as its limit passes at
  the latest, go on.
-/
theorem exists_move_of_inFlight
    (hFlight : 0 < s.inFlight) :
    ∃ t, Move rules rest s t := by
  cases hFresh : s.fresh with
  | cons first later =>
      have hSplit : s.fresh = [] ++ first :: later := hFresh
      exact ⟨_, .start hSplit (Nat.le_refl _)⟩
  | nil =>
      cases hUnderWay : s.underWay with
      | nil =>
          rw [inFlight, hFresh, hUnderWay] at hFlight
          exact absurd hFlight (Nat.lt_irrefl 0)
      | cons r later =>
          rcases Recording.exists_poll (b := s.counter)
            (Nat.le_max_right s.now r.due) with ⟨course, hPoll⟩
          have hSplit : s.underWay = [] ++ r :: later :=
            hUnderWay
          exact ⟨_, .poll hSplit (Nat.le_max_left _ _) hPoll⟩

namespace Orderly

/-
  Until it returns, something can move. A worker that waits
  for a permit waits for a recording that has one, and one
  that joins waits for a recording that is in its set.
-/
theorem exists_move
    (hOrderly : s.Orderly rules visits b [])
    (hStage : s.stage ≠ .returned) :
    ∃ t, Move rules rest s t := by
  cases hAt : s.stage with
  | receiving =>
      cases hQueue : s.queue with
      | nil => exact ⟨_, .hangUp hAt hQueue⟩
      | cons code later => exact ⟨_, .receive hAt hQueue⟩
  | holding code =>
      cases hPermits : s.permits with
      | zero =>
          apply exists_move_of_inFlight
          have hAll := hOrderly.permits
          rw [hPermits, List.length_nil] at hAll
          omega
      | succ permits => exact ⟨_, .spawn hAt hPermits⟩
  | reaping =>
      cases hFinished : s.finished with
      | zero => exact ⟨_, .resume hAt hFinished⟩
      | succ finished => exact ⟨_, .reap hAt hFinished⟩
  | joining =>
      cases hFinished : s.finished with
      | succ finished => exact ⟨_, .join hAt hFinished⟩
      | zero =>
          cases hClosing : s.closing with
          | succ closing => exact ⟨_, .finish hClosing⟩
          | zero =>
              cases hFlight : s.inFlight with
              | zero =>
                  exact ⟨_, .leave hAt hFlight hClosing
                    hFinished⟩
              | succ flight =>
                  apply exists_move_of_inFlight
                  omega
  | returned => exact absurd hAt hStage

/- Wherever it stands, a shift can come to its return. -/
theorem can_return
    (hOrderly : s.Orderly rules visits b []) :
    ∃ n t, Run rules rest n s t ∧ t.stage = .returned := by
  -- Induction on the moves left: each move leaves fewer.
  generalize hLeft : s.left rules = left
  induction left using Nat.strongRecOn generalizing s with
  | ind left ih =>
      by_cases hStage : s.stage = .returned
      · exact ⟨0, s, .stay s, hStage⟩
      · have hNext : ∃ next, Move rules rest s next :=
          hOrderly.exists_move hStage
        rcases hNext with ⟨next, hMove⟩
        have hLess := hMove.left_lt
        rw [hLeft] at hLess
        rcases ih _ hLess (hOrderly.move hMove) rfl with
          ⟨n, t, hRun, hReturned⟩
        exact ⟨1 + n, t, (Run.once hMove).trans hRun,
          hReturned⟩

end Orderly

end Shift

end UrlShortener

------------------------------------------------------------
-- Shifts Without A Failure
------------------------------------------------------------

namespace UrlShortener

namespace Shift

variable {rules : RecordingRules} {rest : Nat → Nat → Nat}
variable {s t : Shift}

/- With a counter that never fails, all goes on well. -/
theorem Move.well
    (hMove : Move rules rest s t)
    (hWell : s.worker.Well rules.limit) :
    t.worker.Well rules.limit := by
  rcases hWell with ⟨hPrompt, hUnderWay, hRecorded⟩
  cases hMove with
  | start hFresh hNow =>
      rw [noteCourse_worker]
      exact Worker.Well.noteCourse
        ⟨hPrompt, hUnderWay, hRecorded⟩
        (Recording.start_sure hPrompt _ _ _)
        (Recording.call_increments_subset rules rest _ _ _)
  | poll hSplit hNow hPoll =>
      rename_i r before after course
      have hEach : ∀ r ∈ s.underWay, r.Sure := hUnderWay
      rw [hSplit] at hEach
      have hSure : r.Sure := by
        apply hEach
        simp
      have hOthers : ∀ r ∈ before ++ after, r.Sure := by
        intro other hMem
        apply hEach
        rcases List.mem_append.mp hMem with hOld | hNew
        · exact List.mem_append_left _ hOld
        · exact List.mem_append_right _
            (List.mem_cons_of_mem _ hNew)
      rw [noteCourse_worker]
      refine Worker.Well.noteCourse
        ⟨hPrompt, hOthers, hRecorded⟩ ?_ ?_
      · rw [Recording.poll?_sure hSure hPoll]
        rfl
      · exact Recording.poll?_increments_subset hPoll
  | _ => exact ⟨hPrompt, hUnderWay, hRecorded⟩

end Shift

end UrlShortener
