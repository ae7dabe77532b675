import Mathlib
import UrlShortener.Proofs.Visit.Shift
import UrlShortener.Proofs.Visit.Worker

/-
  Every schedule of a shift handles every visit once: it
  comes to its return, has then spawned the visits in the
  order of the queue and joined them all, and never had more
  in flight than the rules allow. The worker that records
  visits runs one of these schedules.

  Key definitions include:
    * `Shift.Done`
    * `Shift.Reaches`
    * `Shift.Tracks`
    * `Shift.Followed`

  Main declarations:
    * `Shift.Orderly.done`
    * `Shift.Tracks.startVisits`
    * `Shift.Tracks.wakeDue`
    * `Shift.reaches_run`
    * `Shift.every_schedule_handles_every_visit`
-/

------------------------------------------------------------
-- Shifts That Have Returned
------------------------------------------------------------

namespace UrlShortener

namespace Shift

/-
  What a shift has done when it has returned: all visits are
  spawned in their order, none is in flight, all are joined,
  each has one result, and if all results are good, each
  visit has been counted.
-/
structure Done
    (visits : List String)
    (b : CounterBackend)
    (s : Shift) : Prop where
  spawned : s.spawned = visits
  fresh : s.fresh = []
  underWay : s.underWay = []
  joined : s.joined = visits.length
  codes : (s.results.map Prod.fst).Perm visits
  counted :
    (∀ result ∈ s.results, result.2 = .ok ()) →
      ∀ code,
        s.counter.tally.count code =
          b.tally.count code + visits.count code

variable {rules : RecordingRules} {rest : Nat → Nat → Nat}
variable {visits : List String} {b : CounterBackend}
variable {s t : Shift}

namespace Orderly

theorem inFlight_le
    (hOrderly : s.Orderly rules visits b []) :
    s.inFlight ≤ max 1 rules.concurrency := by
  have hAll := hOrderly.permits
  rw [List.length_nil] at hAll
  omega

theorem spawned_prefix
    (hOrderly : s.Orderly rules visits b []) :
    s.spawned <+: visits :=
  ⟨_, hOrderly.order⟩

theorem done
    (hOrderly : s.Orderly rules visits b [])
    (hReturned : s.stage = .returned) : s.Done visits b := by
  have hNone := hOrderly.returned hReturned
  have hFresh : s.fresh = [] := by
    apply List.eq_nil_of_length_eq_zero
    simp only [inFlight] at hNone
    omega
  have hUnderWay : s.underWay = [] := by
    apply List.eq_nil_of_length_eq_zero
    simp only [inFlight] at hNone
    omega
  have hSpawned : s.spawned = visits := by
    have hOrder := hOrderly.order
    have hQueue : s.queue = [] := by
      apply hOrderly.drained
      rw [hReturned]
      trivial
    rw [hReturned, hQueue] at hOrder
    simpa [Stage.held] using hOrder
  have hCodes : (s.results.map Prod.fst).Perm visits := by
    have hCodes := hOrderly.books.codes
    rw [hSpawned] at hCodes
    simpa [worker, hFresh, hUnderWay] using hCodes
  refine ⟨hSpawned, hFresh, hUnderWay, ?_, hCodes, ?_⟩
  · have hAccounts := hOrderly.accounts
    have hLength := hCodes.length_eq
    rw [List.length_map] at hLength
    omega
  · intro hGood code
    have hCounted := hOrderly.books.counted code
    rw [Worker.recordedCodes_eq hGood] at hCounted
    exact hCounted.trans (by rw [← hCodes.count_eq]; rfl)

/- Just a shift that has returned has no move left. -/
theorem exists_move_iff
    (hOrderly : s.Orderly rules visits b []) :
    (∃ t, Move rules rest s t) ↔ s.stage ≠ .returned := by
  constructor
  · rintro ⟨t, hMove⟩ hReturned
    have hDone := hOrderly.done hReturned
    have hNone := hOrderly.returned hReturned
    cases hMove with
    | receive hStage => cases hReturned.symm.trans hStage
    | hangUp hStage => cases hReturned.symm.trans hStage
    | spawn hStage => cases hReturned.symm.trans hStage
    | reap hStage => cases hReturned.symm.trans hStage
    | resume hStage => cases hReturned.symm.trans hStage
    | join hStage => cases hReturned.symm.trans hStage
    | leave hStage => cases hReturned.symm.trans hStage
    | start hFresh =>
        rw [hDone.fresh] at hFresh
        simp at hFresh
    | poll hUnderWay =>
        rw [hDone.underWay] at hUnderWay
        simp at hUnderWay
    | finish hClosing => omega
  · exact hOrderly.exists_move

end Orderly

end Shift

end UrlShortener

------------------------------------------------------------
-- Shifts That Are Reached
------------------------------------------------------------

namespace UrlShortener

namespace Shift

/- A shift can come to another one. -/
def Reaches
    (rules : RecordingRules)
    (rest : Nat → Nat → Nat)
    (s t : Shift) : Prop :=
  ∃ n, Run rules rest n s t

namespace Reaches

variable {rules : RecordingRules} {rest : Nat → Nat → Nat}
variable {s t u : Shift}

theorem refl (s : Shift) : Reaches rules rest s s :=
  ⟨0, .stay s⟩

theorem once (hMove : Move rules rest s t) :
    Reaches rules rest s t :=
  ⟨1, .once hMove⟩

theorem trans
    (hFirst : Reaches rules rest s t)
    (hSecond : Reaches rules rest t u) :
    Reaches rules rest s u := by
  rcases hFirst with ⟨m, hFirst⟩
  rcases hSecond with ⟨n, hSecond⟩
  exact ⟨m + n, hFirst.trans hSecond⟩

theorem orderly
    {visits : List String}
    {b : CounterBackend}
    (hReaches : Reaches rules rest s t)
    (hOrderly : s.Orderly rules visits b []) :
    t.Orderly rules visits b [] := by
  rcases hReaches with ⟨n, hRun⟩
  exact hRun.keeps Orderly.move hOrderly

/-
  A worker that takes what has ended out of its set, to reap
  or to join it, does so until nothing that has is left.
-/
theorem collected
    {stage : Stage}
    (hMove :
      ∀ {s : Shift} {finished : Nat},
        s.stage = stage → s.finished = finished + 1 →
          Move rules rest s
            { s with
                finished := finished
                joined := s.joined + 1 })
    (hStage : s.stage = stage) :
    Reaches rules rest s
      { s with
          finished := 0
          joined := s.joined + s.finished } := by
  generalize hFinished : s.finished = finished
  induction finished generalizing s with
  | zero =>
      rcases s with ⟨⟩
      cases hFinished
      exact refl _
  | succ finished ih =>
      have hRest := ih (s :=
        { s with
            finished := finished
            joined := s.joined + 1 }) hStage rfl
      rw [show s.joined + (finished + 1) =
        s.joined + 1 + finished by omega]
      exact (once (hMove hStage hFinished)).trans hRest

/- What has given its permit back can be joined. -/
theorem settled (s : Shift) :
    Reaches rules rest s
      { s with
          closing := 0
          finished := s.finished + s.closing } := by
  generalize hClosing : s.closing = closing
  induction closing generalizing s with
  | zero =>
      rcases s with ⟨⟩
      cases hClosing
      exact refl _
  | succ closing ih =>
      have hRest := ih
        { s with
            closing := closing
            finished := s.finished + 1 } rfl
      rw [show s.finished + (closing + 1) =
        s.finished + 1 + closing by omega]
      exact (once (.finish hClosing)).trans hRest

/- With a permit, the next visit is spawned. -/
theorem spawned
    {code : String}
    {later : List String}
    {permits : Nat}
    (hStage : s.stage = .receiving)
    (hQueue : s.queue = code :: later)
    (hPermits : s.permits = permits + 1) :
    Reaches rules rest s
      { s with
          stage := .receiving
          queue := later
          permits := permits
          spawned := s.spawned ++ [code]
          fresh := s.fresh ++ [(s.spawned.length, code)]
          finished := 0
          joined := s.joined + s.finished } := by
  have hReceive : Reaches rules rest s _ :=
    once (.receive hStage hQueue)
  have hSpawn := hReceive.trans (once (.spawn rfl hPermits))
  have hReap := hSpawn.trans (collected .reap rfl)
  exact hReap.trans (once (.resume rfl rfl))

/- With nothing left to do, the worker returns. -/
theorem returned
    (rules : RecordingRules)
    (rest : Nat → Nat → Nat)
    {s : Shift}
    (hStage : s.stage = .receiving)
    (hQueue : s.queue = [])
    (hFlight : s.inFlight = 0) :
    ∃ t, Reaches rules rest s t ∧ t.stage = .returned ∧
      t.results = s.results ∧ t.counter = s.counter :=
  ⟨_, (once (.hangUp hStage hQueue)).trans
      ((settled _).trans ((collected .join rfl).trans
        (once (.leave rfl hFlight rfl rfl)))),
    rfl, rfl, rfl⟩

end Reaches

end Shift

end UrlShortener

------------------------------------------------------------
-- The Schedule Of The Worker
------------------------------------------------------------

namespace UrlShortener

namespace Shift

/-
  A shift that stands where a worker stands, with visits to
  do and recordings that are due left.
-/
structure Tracks
    (todo : List String)
    (due : List Recording)
    (w : Worker)
    (s : Shift) : Prop where
  stage : s.stage = .receiving
  queue : s.queue = todo
  fresh : s.fresh = []
  underWay : s.underWay.Perm (due ++ w.underWay)
  number : s.spawned.length = w.started
  now : s.now ≤ w.now
  later : ∀ r ∈ w.underWay, w.now ≤ r.due
  results : s.results = w.results
  counter : s.counter = w.counter

variable {rules : RecordingRules} {rest : Nat → Nat → Nat}
variable {visits todo : List String} {b : CounterBackend}
variable {due : List Recording} {w : Worker} {s : Shift}

namespace Tracks

/- They note alike how a recording went on. -/
theorem noteCourse
    {code : String}
    {course : Course × CounterBackend}
    (hTracks : s.Tracks todo due w)
    (hCourse : course.1.NotBefore w.now) :
    (s.noteCourse code course).Tracks todo due
      (w.noteCourse code course) := by
  rcases course with ⟨result | r, c⟩
  · exact ⟨hTracks.stage, hTracks.queue, hTracks.fresh,
      hTracks.underWay, hTracks.number, hTracks.now,
      hTracks.later,
      congrArg (· ++ [(code, result)]) hTracks.results, rfl⟩
  · refine ⟨hTracks.stage, hTracks.queue, hTracks.fresh, ?_,
      hTracks.number, hTracks.now, ?_, hTracks.results, rfl⟩
    · have hUnderWay := hTracks.underWay.append_right [r]
      rw [List.append_assoc] at hUnderWay
      exact hUnderWay
    · intro other hMem
      rcases List.mem_append.mp hMem with hOld | hNew
      · exact hTracks.later other hOld
      · rw [List.mem_singleton] at hNew
        subst hNew
        exact hCourse

/- To note a call changes nothing that is tracked. -/
theorem noteCall
    (hTracks : s.Tracks todo due w) :
    s.Tracks todo due w.noteCall :=
  ⟨hTracks.stage, hTracks.queue, hTracks.fresh,
    hTracks.underWay, hTracks.number, hTracks.now,
    hTracks.later, hTracks.results, hTracks.counter⟩

variable (rules rest)

/- The worker starts a visit: it is spawned and starts. -/
theorem startVisit
    {code : String}
    (hTracks : s.Tracks (code :: todo) [] w)
    (hOrderly : s.Orderly rules visits b [])
    (hFree : w.underWay.length < max 1 rules.concurrency) :
    ∃ t, Reaches rules rest s t ∧
      t.Tracks todo [] (w.startVisit rules rest code) := by
  -- The worker counts those under way, the shift its permits.
  have hPermits : s.permits = s.permits - 1 + 1 := by
    have hAll := hOrderly.permits
    have hLength := hTracks.underWay.length_eq
    rw [inFlight, hTracks.fresh] at hAll
    rw [List.nil_append] at hLength
    simp only [List.length_nil] at hAll
    omega
  have hSpawned : Reaches rules rest s _ :=
    .spawned hTracks.stage hTracks.queue hPermits
  rw [hTracks.fresh] at hSpawned
  have hStart := hSpawned.trans (.once (.start rfl hTracks.now))
  refine ⟨_, hStart, ?_⟩
  rw [hTracks.number, hTracks.counter]
  refine Tracks.noteCourse ?_
    (Recording.start_notBefore rules rest _ _ _ _)
  have hNumber :
      (s.spawned ++ [code]).length = w.started + 1 := by
    rw [List.length_append, hTracks.number,
      List.length_singleton]
  exact ⟨rfl, rfl, rfl, hTracks.underWay, hNumber,
    Nat.le_refl _, hTracks.later, hTracks.results, rfl⟩

/- The worker starts visits as long as there are permits. -/
theorem startVisits
    (hTracks : s.Tracks todo [] w)
    (hOrderly : s.Orderly rules visits b []) :
    ∃ t, Reaches rules rest s t ∧
      t.Tracks (w.startVisits rules rest todo).waiting []
        (w.startVisits rules rest todo) := by
  induction todo generalizing w s with
  | nil =>
      exact ⟨s, .refl s, hTracks.stage, hTracks.queue,
        hTracks.fresh, hTracks.underWay, hTracks.number,
        hTracks.now, hTracks.later, hTracks.results,
        hTracks.counter⟩
  | cons code later ih =>
      unfold Worker.startVisits
      split
      · rename_i hFree
        rcases hTracks.startVisit rules rest hOrderly hFree
          with ⟨t, hReaches, hStarted⟩
        rcases ih hStarted (hReaches.orderly hOrderly) with
          ⟨u, hRest, hAll⟩
        exact ⟨u, hReaches.trans hRest, hAll⟩
      · exact ⟨s, .refl s, hTracks.stage, hTracks.queue,
          hTracks.fresh, hTracks.underWay, hTracks.number,
          hTracks.now, hTracks.later, hTracks.results,
          hTracks.counter⟩

/- A recording that is woken when it is due is polled then. -/
theorem wakeOne
    {r : Recording}
    (hTracks : s.Tracks todo (r :: due) w)
    (hDue : r.due = w.now) :
    ∃ t, Reaches rules rest s t ∧
      t.Tracks todo due (w.wakeOne rules rest r) := by
  have hMem : r ∈ s.underWay :=
    hTracks.underWay.mem_iff.mpr List.mem_cons_self
  rcases List.append_of_mem hMem with ⟨before, after, hSplit⟩
  have hPoll :
      r.poll? rules rest w.now s.counter =
        some (r.wake rules rest w.counter) := by
    rw [← hDue, hTracks.counter]
    exact Recording.poll?_due rules rest r w.counter
  have hOthers :
      (before ++ after).Perm (due ++ w.underWay) := by
    have hUnderWay := hTracks.underWay
    rw [hSplit, List.cons_append] at hUnderWay
    exact (List.perm_middle.symm.trans hUnderWay).cons_inv
  have hTaken :
      Tracks todo due w
        { s with
            now := w.now
            underWay := before ++ after } :=
    ⟨hTracks.stage, hTracks.queue, hTracks.fresh, hOthers,
      hTracks.number, Nat.le_refl _, hTracks.later,
      hTracks.results, hTracks.counter⟩
  have hCourse :
      (r.wake rules rest w.counter).1.NotBefore w.now := by
    rw [← hDue]
    exact Recording.wake_notBefore rules rest r w.counter
  refine ⟨_, .once (.poll hSplit hTracks.now hPoll), ?_⟩
  rcases Worker.wakeOne_cases rules rest w r with
    ⟨noted, rfl | rfl, hWake⟩
  · rw [hWake]
    exact hTaken.noteCourse hCourse
  · rw [hWake]
    exact hTaken.noteCall.noteCourse hCourse

theorem wakeAll
    (hTracks : s.Tracks todo due w)
    (hDue : ∀ r ∈ due, r.due = w.now) :
    ∃ t, Reaches rules rest s t ∧
      t.Tracks todo []
        (due.foldl (Worker.wakeOne rules rest) w) := by
  induction due generalizing w s with
  | nil => exact ⟨s, .refl s, hTracks⟩
  | cons r due ih =>
      rw [List.forall_mem_cons] at hDue
      rcases hTracks.wakeOne rules rest hDue.1 with
        ⟨t, hReaches, hWoken⟩
      have hRest :
          ∀ other ∈ due,
            other.due = (w.wakeOne rules rest r).now := by
        rw [Worker.wakeOne_now]
        exact hDue.2
      rcases ih hWoken hRest with ⟨u, hLater, hAll⟩
      exact ⟨u, hReaches.trans hLater, hAll⟩

/- The recordings due first are woken when they are due. -/
theorem wakeDue
    {time : Nat}
    (hTracks : s.Tracks todo [] w)
    (hTime : w.nextDue? = some time) :
    ∃ t, Reaches rules rest s t ∧
      t.Tracks todo [] (w.wakeDue rules rest time) := by
  have hFirst : ∀ r ∈ w.underWay, time ≤ r.due := by
    intro r hMem
    exact (List.min?_eq_some_iff.mp hTime).2 _
      (List.mem_map_of_mem hMem)
  -- Nothing under way was due before the worker came here.
  have hNow : w.now ≤ time := by
    rcases List.mem_map.mp (List.min?_mem hTime) with
      ⟨r, hMem, rfl⟩
    exact hTracks.later r hMem
  have hLeft :
      Tracks todo (w.underWay.filter fun r => r.due == time)
        { w with
            now := time
            underWay :=
              w.underWay.filter fun r => r.due != time } s := by
    refine ⟨hTracks.stage, hTracks.queue, hTracks.fresh, ?_,
      hTracks.number, Nat.le_trans hTracks.now hNow, ?_,
      hTracks.results, hTracks.counter⟩
    · exact hTracks.underWay.trans
        (Worker.due_append_left w time).symm
    · intro r hMem
      exact hFirst r (List.mem_of_mem_filter hMem)
  apply hLeft.wakeAll
  intro r hMem
  simpa using (List.mem_filter.mp hMem).2

end Tracks

/- A worker that stands where a schedule has come to. -/
def Followed
    (rules : RecordingRules)
    (rest : Nat → Nat → Nat)
    (visits : List String)
    (b : CounterBackend)
    (w : Worker) : Prop :=
  ∃ s, Reaches rules rest (start rules visits b) s ∧
    s.Tracks w.waiting [] w

namespace Followed

theorem init
    (rules : RecordingRules)
    (rest : Nat → Nat → Nat)
    (visits : List String)
    (b : CounterBackend) :
    Followed rules rest visits b (Worker.init visits b) :=
  ⟨start rules visits b, .refl _, rfl, rfl, rfl,
    List.Perm.refl _, rfl, Nat.le_refl _, nofun, rfl, rfl⟩

theorem startVisits
    (hFollowed : Followed rules rest visits b w) :
    Followed rules rest visits b
      (w.startVisits rules rest w.waiting) := by
  rcases hFollowed with ⟨s, hReaches, hTracks⟩
  have hOrderly :=
    hReaches.orderly (Orderly.start rules visits b)
  rcases hTracks.startVisits rules rest hOrderly with
    ⟨t, hStarts, hStarted⟩
  exact ⟨t, hReaches.trans hStarts, hStarted⟩

theorem wakeDue
    {time : Nat}
    (hTime : w.nextDue? = some time)
    (hFollowed : Followed rules rest visits b w) :
    Followed rules rest visits b
      (w.wakeDue rules rest time) := by
  rcases hFollowed with ⟨s, hReaches, hTracks⟩
  rcases hTracks.wakeDue rules rest hTime with
    ⟨t, hWakes, hWoken⟩
  have hWaiting :
      (w.wakeDue rules rest time).waiting = w.waiting :=
    Worker.wakeAll_waiting _ _
  rw [← hWaiting] at hWoken
  exact ⟨t, hReaches.trans hWakes, hWoken⟩

end Followed

/- The worker that records visits runs one of the schedules. -/
theorem reaches_run
    (rules : RecordingRules)
    (rest : Nat → Nat → Nat)
    (visits : List String)
    (b : CounterBackend) :
    ∃ s, Reaches rules rest (start rules visits b) s ∧
      s.stage = .returned ∧
      s.results = (Worker.run rules rest visits b).results ∧
      s.counter = (Worker.run rules rest visits b).counter := by
  have hRun :
      Followed rules rest visits b
        (Worker.run rules rest visits b) :=
    Worker.loop_induction rules rest Followed.startVisits
      Followed.wakeDue (.init rules rest visits b) _
  rcases hRun with ⟨s, hReaches, hTracks⟩
  rcases Worker.run_done rules rest visits b with
    ⟨hWaiting, hIdle⟩
  have hUnderWay := hTracks.underWay
  rw [hIdle, List.append_nil] at hUnderWay
  have hFlight : s.inFlight = 0 := by
    rw [inFlight, hTracks.fresh, hUnderWay.eq_nil]
    rfl
  rcases Reaches.returned rules rest hTracks.stage
    (hTracks.queue.trans hWaiting) hFlight with
    ⟨t, hReturns, hReturned, hResults, hCounter⟩
  exact ⟨t, hReaches.trans hReturns, hReturned,
    hResults.trans hTracks.results,
    hCounter.trans hTracks.counter⟩

end Shift

end UrlShortener

------------------------------------------------------------
-- All Schedules
------------------------------------------------------------

namespace UrlShortener

namespace Shift

/-
  Whatever the counter replies and whichever moves next, a
  shift comes to its return within a number of moves that
  the visits and the retries bound. It spawns the visits in
  their order, never has more in flight than the rules allow
  and returns no sooner than all are joined; with a counter
  that never fails, no visit is given up. To record visits
  by the clock is to follow one of these schedules.
-/
theorem every_schedule_handles_every_visit
    (rules : RecordingRules)
    (rest : Nat → Nat → Nat)
    (visits : List String)
    (b : CounterBackend) :
    (∀ n s,
      Run rules rest n (start rules visits b) s →
        n ≤ visits.length * (2 * rules.retries + 7) + 2 ∧
        s.inFlight ≤ max 1 rules.concurrency ∧
        s.spawned <+: visits ∧
        ((∃ t, Move rules rest s t) ↔ s.stage ≠ .returned) ∧
        (∃ m t, Run rules rest m s t ∧ t.stage = .returned) ∧
        (s.stage = .returned → s.Done visits b) ∧
        (b.Prompt rules.limit →
          ∀ result ∈ s.results, result.2 = .ok ())) ∧
    ∃ n s,
      Run rules rest n (start rules visits b) s ∧
        s.stage = .returned ∧
        s.results = (Worker.run rules rest visits b).results ∧
        s.counter =
          (Worker.run rules rest visits b).counter := by
  constructor
  · intro n s hRun
    have hLength := hRun.length_le
    rw [left_start] at hLength
    have hOrderly : s.Orderly rules visits b [] :=
      hRun.keeps Orderly.move (.start rules visits b)
    refine ⟨by omega, hOrderly.inFlight_le,
      hOrderly.spawned_prefix, hOrderly.exists_move_iff,
      hOrderly.can_return, hOrderly.done, ?_⟩
    intro hPrompt
    have hWell : s.worker.Well rules.limit :=
      hRun.keeps (P := fun s => s.worker.Well rules.limit)
        Move.well ⟨hPrompt, nofun, nofun⟩
    exact hWell.recorded
  · rcases reaches_run rules rest visits b with
      ⟨s, ⟨n, hRun⟩, hEnd⟩
    exact ⟨n, s, hRun, hEnd⟩

/- Two at a time, with answers right at the limit. -/
def sampleRules : RecordingRules :=
  { concurrency := 2, limit := 50, retries := 1 }

def sampleVisits : List String := ["first", "second", "first"]

def sampleCounter : CounterBackend :=
  { CounterBackend.fresh with
      increments := [.late 50, .prompt, .late 30] }

/- Three visits of two links are counted. -/
theorem sample_schedule_handles_every_visit :
    ∃ n s,
      Run sampleRules (fun _ _ => 7) n
        (start sampleRules sampleVisits sampleCounter) s ∧
      n ≤ 29 ∧ s.inFlight ≤ 2 ∧ s.stage = .returned ∧
      s.spawned = sampleVisits ∧ s.joined = 3 ∧
      s.counter.tally.count "first" = 2 ∧
      s.counter.tally.count "second" = 1 := by
  rcases every_schedule_handles_every_visit sampleRules
    (fun _ _ => 7) sampleVisits sampleCounter with
    ⟨hEvery, n, s, hRun, hReturned, _⟩
  rcases hEvery n s hRun with
    ⟨hLength, hFlight, _, _, _, hDone, hRecorded⟩
  have hPrompt : sampleCounter.Prompt sampleRules.limit := by
    unfold CounterBackend.Prompt
    decide
  have hAll := hDone hReturned
  have hGood := hRecorded hPrompt
  exact ⟨n, s, hRun, hLength, hFlight, hReturned,
    hAll.spawned, hAll.joined,
    (hAll.counted hGood "first").trans (by decide),
    (hAll.counted hGood "second").trans (by decide)⟩

end Shift

end UrlShortener
