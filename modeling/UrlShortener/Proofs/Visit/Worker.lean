import Mathlib
import UrlShortener.Proofs.Visit.Recording
import UrlShortener.Visit.Worker

/-
  The worker records every visit that it is given, well or
  badly, and just the visits that it has recorded well are
  counted. It comes to its end: every recording that goes on
  gets lighter, and every call is paid for by a reply.

  Key definitions include:
    * `Worker.Books`
    * `Worker.weight`
    * `Worker.Well`

  Main declarations:
    * `Worker.loop_done`
    * `Worker.run_codes`
    * `Worker.run_count`
    * `Worker.run_well`
-/

------------------------------------------------------------
-- Recorded And Failed Visits
------------------------------------------------------------

namespace UrlShortener

namespace Worker

/- The codes of the visits that were recorded. -/
def recordedCodes (w : Worker) : List String :=
  (w.results.filter fun r => r.2.isOk).map Prod.fst

/- The codes of the visits that were given up. -/
def failedCodes (w : Worker) : List String :=
  (w.results.filter fun r => !r.2.isOk).map Prod.fst

theorem recorded_eq (w : Worker) :
    w.recorded = w.recordedCodes.length := by
  rw [recordedCodes, List.length_map]
  rfl

theorem failed_eq (w : Worker) :
    w.failed = w.failedCodes.length := by
  rw [failedCodes, List.length_map]
  rfl

/- Every result is one or the other. -/
theorem recordedCodes_append_failedCodes (w : Worker) :
    (w.recordedCodes ++ w.failedCodes).Perm
      (w.results.map Prod.fst) := by
  unfold recordedCodes failedCodes
  rw [← List.map_append]
  apply List.Perm.map
  have hSplit :=
    List.filter_append_perm (fun r => r.2.isOk) w.results
  simpa using hSplit

/- If all results are good, all visits were recorded. -/
theorem recordedCodes_eq
    {w : Worker}
    (hGood : ∀ result ∈ w.results, result.2 = .ok ()) :
    w.recordedCodes = w.results.map Prod.fst := by
  unfold recordedCodes
  rw [List.filter_eq_self.mpr]
  intro result hMem
  rw [hGood result hMem]
  rfl

end Worker

end UrlShortener

------------------------------------------------------------
-- The Books Of A Worker
------------------------------------------------------------

namespace UrlShortener

namespace Worker

/-
  Of the visits given to a worker that began with a counter,
  each has a result, is under way or is yet to do, and those
  recorded well are counted.
-/
structure Books
    (b : CounterBackend)
    (visits todo : List String)
    (w : Worker) : Prop where
  codes :
    (w.results.map Prod.fst ++
      (w.underWay.map Recording.code ++ todo)).Perm visits
  counted :
    ∀ code,
      w.counter.tally.count code =
        b.tally.count code + w.recordedCodes.count code
  replies : w.counter.increments ⊆ b.increments

variable {rules : RecordingRules} {rest : Nat → Nat → Nat}
variable {b : CounterBackend} {visits todo : List String}
variable {w : Worker}

/- A recording that goes on may make a call, which is noted. -/
theorem wakeOne_cases
    (rules : RecordingRules)
    (rest : Nat → Nat → Nat)
    (w : Worker)
    (r : Recording) :
    ∃ noted, (noted = w ∨ noted = w.noteCall) ∧
      w.wakeOne rules rest r =
        noted.noteCourse r.code
          (r.wake rules rest w.counter) := by
  cases hAwaited : r.awaited with
  | answer at_ fault =>
      refine ⟨w, Or.inl rfl, ?_⟩
      simp only [wakeOne, hAwaited, Bool.false_eq_true,
        if_false]
  | retry at_ =>
      by_cases hTime : at_ ≤ r.limit
      · refine ⟨w.noteCall, Or.inr rfl, ?_⟩
        simp only [wakeOne, hAwaited, hTime, decide_true,
          if_true]
      · refine ⟨w, Or.inl rfl, ?_⟩
        simp only [wakeOne, hAwaited, hTime, decide_false,
          Bool.false_eq_true, if_false]

namespace Books

/- How a recording goes on leaves the books in order. -/
theorem noteCourse
    {code : String}
    {course : Course × CounterBackend}
    (hBooks : w.Books b visits (code :: todo))
    (hCourse : Course.Books code w.counter.tally course)
    (hReplies :
      course.2.increments ⊆ w.counter.increments) :
    (w.noteCourse code course).Books b visits todo := by
  have hEnded :
      (w.results.map Prod.fst ++
        (code :: (w.underWay.map Recording.code ++
          todo))).Perm visits :=
    (List.perm_middle.symm.append_left _).trans hBooks.codes
  cases hCourse with
  | recorded hTally =>
      constructor
      case codes => simpa [Worker.noteCourse] using hEnded
      case counted =>
        intro other
        have hOld := hBooks.counted other
        simp only [Worker.noteCourse, hTally,
          Tally.count_increment, recordedCodes] at hOld ⊢
        rw [hOld]
        simp [Except.isOk, Except.toBool, List.count_singleton,
          Nat.add_assoc]
      case replies =>
        exact List.Subset.trans hReplies hBooks.replies
  | failed hTally =>
      constructor
      case codes => simpa [Worker.noteCourse] using hEnded
      case counted =>
        intro other
        have hOld := hBooks.counted other
        simp only [Worker.noteCourse, hTally,
          recordedCodes] at hOld ⊢
        rw [hOld]
        simp [Except.isOk, Except.toBool]
      case replies =>
        exact List.Subset.trans hReplies hBooks.replies
  | waits hCode hTally =>
      constructor
      case codes =>
        simpa [Worker.noteCourse, hCode] using hBooks.codes
      case counted =>
        intro other
        have hOld := hBooks.counted other
        simp only [Worker.noteCourse, hTally]
        exact hOld
      case replies =>
        exact List.Subset.trans hReplies hBooks.replies

theorem noteCall
    (hBooks : w.Books b visits todo) :
    w.noteCall.Books b visits todo :=
  ⟨hBooks.codes, hBooks.counted, hBooks.replies⟩

theorem startVisit
    {code : String}
    (hBooks : w.Books b visits (code :: todo)) :
    (w.startVisit rules rest code).Books b visits todo := by
  have hNoted :
      { w.noteCall with started := w.started + 1 }.Books b
        visits (code :: todo) :=
    ⟨hBooks.codes, hBooks.counted, hBooks.replies⟩
  exact hNoted.noteCourse
    (Recording.start_books rules rest w.now w.started code
      w.counter)
    (Recording.call_increments_subset rules rest _ _ _)

theorem startVisits
    (hBooks : w.Books b visits todo) :
    (w.startVisits rules rest todo).Books b visits
      (w.startVisits rules rest todo).waiting := by
  induction todo generalizing w with
  | nil =>
      exact ⟨hBooks.codes, hBooks.counted, hBooks.replies⟩
  | cons code later ih =>
      unfold Worker.startVisits
      split
      · exact ih hBooks.startVisit
      · exact ⟨hBooks.codes, hBooks.counted, hBooks.replies⟩

theorem wakeOne
    {r : Recording}
    (hBooks : w.Books b visits (r.code :: todo)) :
    (w.wakeOne rules rest r).Books b visits todo := by
  have hCourse :=
    Recording.wake_books rules rest r w.counter
  have hReplies :=
    Recording.wake_increments_subset rules rest r w.counter
  rcases wakeOne_cases rules rest w r with
    ⟨noted, rfl | rfl, hWake⟩
  · rw [hWake]
    exact hBooks.noteCourse hCourse hReplies
  · rw [hWake]
    exact hBooks.noteCall.noteCourse hCourse hReplies

theorem wakeAll
    {due : List Recording}
    (hBooks :
      w.Books b visits (due.map Recording.code ++ todo)) :
    (due.foldl (Worker.wakeOne rules rest) w).Books b visits
      todo := by
  induction due generalizing w with
  | nil => exact hBooks
  | cons r due ih => exact ih hBooks.wakeOne

end Books

theorem wakeOne_waiting
    (w : Worker)
    (r : Recording) :
    (w.wakeOne rules rest r).waiting = w.waiting := by
  rcases wakeOne_cases rules rest w r with
    ⟨noted, hNoted, hWake⟩
  have hSame : noted.waiting = w.waiting := by
    rcases hNoted with rfl | rfl
    · rfl
    · rfl
  rw [hWake, ← hSame]
  rcases r.wake rules rest w.counter with ⟨_ | _, _⟩
  · rfl
  · rfl

theorem wakeOne_now
    (w : Worker)
    (r : Recording) :
    (w.wakeOne rules rest r).now = w.now := by
  rcases wakeOne_cases rules rest w r with
    ⟨noted, hNoted, hWake⟩
  have hSame : noted.now = w.now := by
    rcases hNoted with rfl | rfl
    · rfl
    · rfl
  rw [hWake, ← hSame]
  rcases r.wake rules rest w.counter with ⟨_ | _, _⟩
  · rfl
  · rfl

theorem wakeAll_waiting
    (w : Worker)
    (due : List Recording) :
    (due.foldl (wakeOne rules rest) w).waiting =
      w.waiting := by
  induction due generalizing w with
  | nil => rfl
  | cons r due ih =>
      rw [List.foldl_cons, ih, wakeOne_waiting]

/- The recordings of a worker are those due and the others. -/
theorem due_append_left
    (w : Worker)
    (time : Nat) :
    ((w.underWay.filter fun r => r.due == time) ++
      w.underWay.filter fun r => r.due != time).Perm
        w.underWay := by
  have hSplit :=
    List.filter_append_perm (fun r => r.due == time) w.underWay
  simpa [bne] using hSplit

theorem Books.wakeDue
    (hBooks : w.Books b visits w.waiting)
    (time : Nat) :
    (w.wakeDue rules rest time).Books b visits
      (w.wakeDue rules rest time).waiting := by
  unfold Worker.wakeDue
  dsimp only
  rw [wakeAll_waiting]
  apply Books.wakeAll
  refine ⟨?_, hBooks.counted, hBooks.replies⟩
  refine List.Perm.trans ?_ hBooks.codes
  apply List.Perm.append_left
  rw [← List.append_assoc]
  apply List.Perm.append_right
  rw [← List.map_append]
  exact (List.perm_append_comm.trans
    (due_append_left w time)).map _

end Worker

end UrlShortener

------------------------------------------------------------
-- The End Of The Work
------------------------------------------------------------

namespace UrlShortener

namespace Worker

/- The weights of the recordings under way, and the replies. -/
def weight (w : Worker) : Nat :=
  (w.underWay.map Recording.weight).sum +
    2 * w.counter.increments.length

variable (rules : RecordingRules) (rest : Nat → Nat → Nat)
variable {w : Worker}

theorem noteCourse_weight
    (w : Worker)
    (code : String)
    (course : Course × CounterBackend) :
    (w.noteCourse code course).weight =
      (w.underWay.map Recording.weight).sum +
        (course.1.weight +
          2 * course.2.increments.length) := by
  rcases course with ⟨result | r, b⟩
  · simp [noteCourse, weight, Course.weight]
  · simp [noteCourse, weight, Course.weight, Nat.add_assoc]

theorem startVisit_weight_le
    (w : Worker)
    (code : String) :
    (w.startVisit rules rest code).weight ≤ w.weight := by
  unfold startVisit
  dsimp only
  rw [noteCourse_weight]
  exact Nat.add_le_add_left
    (Recording.start_cost rules rest w.now w.started code
      w.counter) _

theorem startVisits_weight_le
    (w : Worker)
    (visits : List String) :
    (w.startVisits rules rest visits).weight ≤ w.weight := by
  induction visits generalizing w with
  | nil => exact Nat.le_refl _
  | cons code later ih =>
      unfold startVisits
      split
      · exact Nat.le_trans (ih _)
          (startVisit_weight_le rules rest w code)
      · exact Nat.le_refl _

theorem wakeOne_weight_lt
    (w : Worker)
    (r : Recording) :
    (w.wakeOne rules rest r).weight < w.weight + r.weight := by
  have hCost := Recording.wake_cost rules rest r w.counter
  rcases wakeOne_cases rules rest w r with
    ⟨noted, hNoted, hWake⟩
  have hSame : noted.underWay = w.underWay := by
    rcases hNoted with rfl | rfl
    · rfl
    · rfl
  rw [hWake, noteCourse_weight, hSame]
  unfold weight
  omega

theorem wakeAll_weight_le
    (w : Worker)
    (due : List Recording) :
    (due.foldl (wakeOne rules rest) w).weight + due.length ≤
      w.weight + (due.map Recording.weight).sum := by
  induction due generalizing w with
  | nil => exact Nat.le_refl _
  | cons r due ih =>
      have hRest := ih (w.wakeOne rules rest r)
      have hOne := wakeOne_weight_lt rules rest w r
      rw [List.foldl_cons, List.length_cons, List.map_cons,
        List.sum_cons]
      omega

/- A worker gets lighter when a recording is due. -/
theorem wakeDue_weight_lt
    {time : Nat}
    (hDue : w.nextDue? = some time) :
    (w.wakeDue rules rest time).weight < w.weight := by
  have hMem : time ∈ w.underWay.map Recording.due :=
    List.min?_mem hDue
  rcases List.mem_map.mp hMem with ⟨r, hUnderWay, hTime⟩
  have hSome :
      0 < (w.underWay.filter fun r => r.due == time).length := by
    apply List.length_pos_of_mem (a := r)
    exact List.mem_filter.mpr ⟨hUnderWay, by simpa using hTime⟩
  have hSum :
      (w.underWay.map Recording.weight).sum =
        ((w.underWay.filter fun r => r.due == time).map
            Recording.weight).sum +
          ((w.underWay.filter fun r => r.due != time).map
            Recording.weight).sum := by
    rw [← List.sum_append_nat, ← List.map_append]
    exact ((due_append_left w time).map _).sum_nat.symm
  have hAll := wakeAll_weight_le rules rest
    { w with
        now := time
        underWay :=
          w.underWay.filter fun r => r.due != time }
    (w.underWay.filter fun r => r.due == time)
  simp only [weight] at hAll
  simp only [wakeDue, weight]
  omega

/- A worker starts visits as long as it has nothing to do. -/
theorem startVisits_waiting
    {visits : List String}
    (hIdle : (w.startVisits rules rest visits).underWay = []) :
    (w.startVisits rules rest visits).waiting = [] := by
  induction visits generalizing w with
  | nil => rfl
  | cons code later ih =>
      unfold startVisits at hIdle ⊢
      split at hIdle
      · rename_i hFree
        rw [if_pos hFree]
        exact ih hIdle
      · rename_i hFull
        change w.underWay = [] at hIdle
        rw [hIdle, List.length_nil] at hFull
        exact absurd (Nat.lt_of_lt_of_le Nat.one_pos
          (Nat.le_max_left _ _)) hFull

/- What starting visits and going on keep, a run keeps. -/
theorem loop_induction
    {P : Worker → Prop}
    (hStart :
      ∀ {w}, P w → P (w.startVisits rules rest w.waiting))
    (hWake :
      ∀ {w time},
        w.nextDue? = some time →
          P w → P (w.wakeDue rules rest time))
    (hWorker : P w)
    (fuel : Nat) : P (w.loop rules rest fuel) := by
  induction fuel generalizing w with
  | zero => exact hWorker
  | succ fuel ih =>
      unfold loop
      dsimp only
      split
      · exact hStart hWorker
      · rename_i time hDue
        exact ih (hWake hDue (hStart hWorker))

/- With more fuel than it weighs, a worker comes to its end. -/
theorem loop_done
    {fuel : Nat}
    (hFuel : w.weight < fuel) :
    (w.loop rules rest fuel).waiting = [] ∧
      (w.loop rules rest fuel).underWay = [] := by
  induction fuel generalizing w with
  | zero => exact absurd hFuel (Nat.not_lt_zero _)
  | succ fuel ih =>
      have hLighter :=
        startVisits_weight_le rules rest w w.waiting
      unfold loop
      dsimp only
      split
      · rename_i hNone
        have hIdle :
            (w.startVisits rules rest w.waiting).underWay =
              [] := by
          simpa [nextDue?] using hNone
        exact ⟨startVisits_waiting rules rest hIdle, hIdle⟩
      · rename_i time hDue
        have hWake := wakeDue_weight_lt rules rest hDue
        apply ih
        omega

end Worker

end UrlShortener

------------------------------------------------------------
-- Runs
------------------------------------------------------------

namespace UrlShortener

namespace Worker

variable (rules : RecordingRules) (rest : Nat → Nat → Nat)
variable (visits : List String) (b : CounterBackend)

/- A run starts every visit and waits for every recording. -/
theorem run_done :
    (run rules rest visits b).waiting = [] ∧
      (run rules rest visits b).underWay = [] := by
  apply loop_done
  simp only [weight, init, fuelFor, List.map_nil, List.sum_nil]
  omega

theorem run_books :
    (run rules rest visits b).Books b visits [] := by
  have hInit : (init visits b).Books b visits visits :=
    ⟨List.Perm.refl _, fun _ => rfl, List.Subset.refl _⟩
  have hRun :=
    loop_induction rules rest
      (P := fun w => w.Books b visits w.waiting)
      (w := init visits b)
      Books.startVisits (fun _ hBooks => hBooks.wakeDue _)
      hInit (fuelFor b)
  have hWaiting := (run_done rules rest visits b).1
  unfold run at hWaiting ⊢
  rw [hWaiting] at hRun
  exact hRun

/- Every visit is recorded or given up, and none twice. -/
theorem run_codes :
    ((run rules rest visits b).recordedCodes ++
      (run rules rest visits b).failedCodes).Perm visits := by
  have hCodes := (run_books rules rest visits b).codes
  rw [(run_done rules rest visits b).2, List.map_nil,
    List.append_nil, List.append_nil] at hCodes
  exact (recordedCodes_append_failedCodes _).trans hCodes

/- Just the visits that were recorded are counted. -/
theorem run_count (code : String) :
    (run rules rest visits b).counter.tally.count code =
      b.tally.count code +
        (run rules rest visits b).recordedCodes.count code :=
  (run_books rules rest visits b).counted code

end Worker

end UrlShortener

------------------------------------------------------------
-- Runs Without A Failure
------------------------------------------------------------

namespace UrlShortener

namespace Worker

/-
  All calls to come succeed in time, all under way will, and
  all visits that are over were recorded.
-/
structure Well (limit : Nat) (w : Worker) : Prop where
  prompt : w.counter.Prompt limit
  sure : ∀ r ∈ w.underWay, r.Sure
  recorded : ∀ result ∈ w.results, result.2 = .ok ()

variable {rules : RecordingRules} {rest : Nat → Nat → Nat}
variable {limit : Nat} {w : Worker}

namespace Well

theorem noteCourse
    {code : String}
    {course : Course × CounterBackend}
    (hWell : w.Well limit)
    (hSure : course.1.Sure)
    (hReplies :
      course.2.increments ⊆ w.counter.increments) :
    (w.noteCourse code course).Well limit := by
  have hPrompt : course.2.Prompt limit :=
    fun reply hMem => hWell.prompt reply (hReplies hMem)
  rcases course with ⟨result | r, b⟩
  · refine ⟨hPrompt, hWell.sure, ?_⟩
    intro other hMem
    rcases List.mem_append.mp hMem with hOld | hNew
    · exact hWell.recorded other hOld
    · rw [List.mem_singleton] at hNew
      subst hNew
      exact hSure
  · refine ⟨hPrompt, ?_, hWell.recorded⟩
    intro other hMem
    rcases List.mem_append.mp hMem with hOld | hNew
    · exact hWell.sure other hOld
    · rw [List.mem_singleton] at hNew
      subst hNew
      exact hSure

theorem startVisits
    (hWell : w.Well rules.limit)
    (visits : List String) :
    (w.startVisits rules rest visits).Well rules.limit := by
  induction visits generalizing w with
  | nil => exact ⟨hWell.prompt, hWell.sure, hWell.recorded⟩
  | cons code later ih =>
      unfold Worker.startVisits
      split
      · apply ih
        have hNoted :
            { w.noteCall with
                started := w.started + 1 }.Well rules.limit :=
          ⟨hWell.prompt, hWell.sure, hWell.recorded⟩
        exact hNoted.noteCourse
          (Recording.start_sure hWell.prompt w.now w.started
            code)
          (Recording.call_increments_subset rules rest _ _ _)
      · exact ⟨hWell.prompt, hWell.sure, hWell.recorded⟩

theorem wakeOne
    {r : Recording}
    (hWell : w.Well limit)
    (hSure : r.Sure) :
    (w.wakeOne rules rest r).Well limit := by
  have hEnd : (r.wake rules rest w.counter).1.Sure := by
    rw [Recording.wake_sure hSure]
    rfl
  have hReplies :=
    Recording.wake_increments_subset rules rest r w.counter
  rcases wakeOne_cases rules rest w r with
    ⟨noted, rfl | rfl, hWake⟩
  · rw [hWake]
    exact hWell.noteCourse hEnd hReplies
  · have hNoted : w.noteCall.Well limit :=
      ⟨hWell.prompt, hWell.sure, hWell.recorded⟩
    rw [hWake]
    exact hNoted.noteCourse hEnd hReplies

theorem wakeAll
    {due : List Recording}
    (hWell : w.Well limit)
    (hDue : ∀ r ∈ due, r.Sure) :
    (due.foldl (Worker.wakeOne rules rest) w).Well limit := by
  induction due generalizing w with
  | nil => exact hWell
  | cons r due ih =>
      rw [List.forall_mem_cons] at hDue
      exact ih (hWell.wakeOne hDue.1) hDue.2

theorem wakeDue
    (hWell : w.Well limit)
    (time : Nat) :
    (w.wakeDue rules rest time).Well limit := by
  have hLeft :
      { w with
          now := time
          underWay :=
            w.underWay.filter fun r =>
              r.due != time }.Well limit := by
    refine ⟨hWell.prompt, ?_, hWell.recorded⟩
    intro r hMem
    exact hWell.sure r (List.mem_of_mem_filter hMem)
  apply hLeft.wakeAll
  intro r hMem
  exact hWell.sure r (List.mem_of_mem_filter hMem)

end Well

/- A counter that never fails makes no visit fail. -/
theorem run_well
    {b : CounterBackend}
    (hPrompt : b.Prompt rules.limit)
    (visits : List String) :
    (run rules rest visits b).failedCodes = [] := by
  have hInit : (init visits b).Well rules.limit :=
    ⟨hPrompt, nofun, nofun⟩
  have hRun : (run rules rest visits b).Well rules.limit :=
    loop_induction rules rest
      (fun hWell => hWell.startVisits _)
      (fun _ hWell => hWell.wakeDue _) hInit (fuelFor b)
  unfold failedCodes
  rw [List.map_eq_nil_iff, List.filter_eq_nil_iff]
  intro result hMem
  rw [hRun.recorded result hMem]
  decide

end Worker

end UrlShortener
