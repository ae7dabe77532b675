import UrlShortener.Proofs.Visit.TallyRace

/-
  No increment is lost and none is invented. Each call of a
  race is settled by one of its steps: the one that adds to
  the cell, that loads it, or that finds nothing to be
  loaded. The count of a code is the number of increments
  settled so far, and a count that was read is the number of
  those settled before it.

  Key definitions include:
    * `TallyTask.added`
    * `TallyTask.Timely`
    * `TallyRace.Sound`

  Main declarations:
    * `TallyTask.Goes.count`
    * `TallyRace.Sound.step`
    * `TallyRace.Sound.read_at`
    * `TallyRace.no_increment_is_lost`
-/

------------------------------------------------------------
-- Counts Of Increments
------------------------------------------------------------

namespace UrlShortener

namespace TallyTask

/- A call that counts a visit of a code. -/
def increments (code : String) (a : TallyTask) : Bool :=
  a.call = .increment code

/- Such a call that has added to the cell. -/
def added (code : String) (a : TallyTask) : Bool :=
  a.increments code && a.stage.settledAt.isSome

/- Such a call that had begun before a time. -/
def begunBefore
    (code : String)
    (time : Nat)
    (a : TallyTask) : Bool :=
  a.increments code && a.begun < time

/- Such a call that had added to the cell before a time. -/
def addedBefore
    (code : String)
    (time : Nat)
    (a : TallyTask) : Bool :=
  a.increments code && a.stage.settledAt.any (· < time)

/- Such a call that had ended before a time. -/
def endedBefore
    (code : String)
    (time : Nat)
    (a : TallyTask) : Bool :=
  a.increments code && a.stage.endedAt.any (· < time)

/- A call begins, is settled and ends, and not in the future. -/
structure Timely (time : Nat) (a : TallyTask) : Prop where
  begun_lt : a.begun < time
  settled : ∀ at_, a.stage.settledAt = some at_ →
    a.begun < at_ ∧ at_ < time
  ended : ∀ end_, a.stage.endedAt = some end_ →
    end_ < time ∧
      ∃ at_, a.stage.settledAt = some at_ ∧ at_ < end_

theorem Timely.later
    {time : Nat}
    {a : TallyTask}
    (hTimely : a.Timely time) : a.Timely (time + 1) where
  begun_lt := Nat.lt_succ_of_lt hTimely.begun_lt
  settled := fun at_ hAt =>
    (hTimely.settled at_ hAt).imp_right Nat.lt_succ_of_lt
  ended := fun end_ hEnd =>
    (hTimely.ended end_ hEnd).imp_left Nat.lt_succ_of_lt

end TallyTask

end UrlShortener

------------------------------------------------------------
-- What A Step Keeps
------------------------------------------------------------

namespace UrlShortener

namespace TallyTask

namespace Goes

variable {time : Nat} {t tally : Tally}
variable {a : TallyTask} {stage : TallyStage}

/- Cells that are there stay, and one that is held is there. -/
theorem hasCell
    (hGoes : a.Goes time t stage tally)
    {code : String}
    (hCell : t.hasCell code = true) :
    tally.hasCell code = true := by
  cases hGoes with
  | made => exact Tally.hasCell_makeCell_of_hasCell hCell _
  | added => rw [Tally.hasCell_addToCell, hCell]
  | _ => exact hCell

theorem holds
    (hGoes : a.Goes time t stage tally)
    (hHeld : stage = .holding)
    (hCell :
      a.stage = .holding → t.hasCell a.call.code = true) :
    tally.hasCell a.call.code = true := by
  cases hGoes with
  | found _ hFound => exact hFound
  | made => exact t.hasCell_makeCell a.call.code
  | finished => exact hCell hHeld
  | _ => cases hHeld

/- A call is settled by its step, or stays as it was. -/
theorem settledAt
    (hGoes : a.Goes time t stage tally) :
    stage.settledAt = a.stage.settledAt ∨
      (a.stage.settledAt = none ∧
        stage.settledAt = some time) := by
  cases hGoes with
  | found hStage => exact Or.inl (by rw [hStage]; rfl)
  | missed hStage => exact Or.inl (by rw [hStage]; rfl)
  | absent hStage => exact Or.inr ⟨by rw [hStage]; rfl, rfl⟩
  | made hStage => exact Or.inl (by rw [hStage]; rfl)
  | added hStage => exact Or.inr ⟨by rw [hStage]; rfl, rfl⟩
  | loaded hStage => exact Or.inr ⟨by rw [hStage]; rfl, rfl⟩
  | returned hStage => exact Or.inl (by rw [hStage]; rfl)
  | finished => exact Or.inl rfl

/- So what had been added before stays as it was. -/
theorem addedBefore
    (hGoes : a.Goes time t stage tally)
    (code : String)
    {at_ : Nat}
    (hTime : at_ ≤ time) :
    { a with stage := stage }.addedBefore code at_ =
      a.addedBefore code at_ := by
  unfold TallyTask.addedBefore
  dsimp only
  rcases hGoes.settledAt with hSame | ⟨hNone, hNow⟩
  · rw [hSame]
    rfl
  · have hLate : ¬ time < at_ := Nat.not_lt.mpr hTime
    rw [hNone, hNow, Option.any_some, Option.any_none,
      decide_eq_false hLate, Bool.and_false, Bool.and_false]

/- The count of a code grows by what the step has added. -/
theorem count
    (hGoes : a.Goes time t stage tally)
    (hCell :
      a.stage = .holding → t.hasCell a.call.code = true)
    (code : String) :
    tally.count code + (if a.added code then 1 else 0) =
      t.count code +
        if { a with stage := stage }.added code then 1
        else 0 := by
  unfold TallyTask.added increments
  cases hGoes with
  | found hStage => rw [hStage]; rfl
  | missed hStage => rw [hStage]; rfl
  | absent _ hCall => simp [hCall]
  | made hStage => rw [hStage, Tally.count_makeCell]; rfl
  | @added other hStage hCall =>
      have hHeld : t.hasCell other = true := by
        have hCode := hCell hStage
        rwa [hCall] at hCode
      rw [Tally.count_addToCell hHeld, hStage, hCall]
      by_cases hCode : other = code
      · simp [hCode, TallyStage.settledAt]
      · simp [hCode]
  | loaded _ hCall => simp [hCall]
  | returned hStage => rw [hStage]; rfl
  | finished => rfl

theorem timely
    (hGoes : a.Goes time t stage tally)
    (hTimely : a.Timely time) :
    { a with stage := stage }.Timely (time + 1) := by
  have hBegun : a.begun < time := hTimely.begun_lt
  refine ⟨Nat.lt_succ_of_lt hBegun, ?_, ?_⟩
  · intro at_ hAt
    rcases hGoes.settledAt with hSame | ⟨_, hNow⟩
    · rw [hSame] at hAt
      exact hTimely.later.settled at_ hAt
    · rw [hNow] at hAt
      cases hAt
      exact ⟨hBegun, Nat.lt_succ_self time⟩
  · intro end_ hEnd
    cases hGoes with
    | @returned at_ answer hStage =>
        cases hEnd
        have hOld :=
          hTimely.settled at_ (by rw [hStage]; rfl)
        exact ⟨Nat.lt_succ_self time, at_, rfl, hOld.2⟩
    | finished => exact hTimely.later.ended end_ hEnd
    | _ => cases hEnd

/- What is read now is the count of the code. -/
theorem reads
    (hGoes : a.Goes time t stage tally)
    {code : String}
    {at_ n : Nat}
    (hCall : a.call = .get code)
    (hAt : stage.settledAt = some at_)
    (hRead : stage.answer? = some (.read n)) :
    (a.stage.settledAt = some at_ ∧
      a.stage.answer? = some (.read n)) ∨
      (at_ = time ∧ n = t.count code) := by
  cases hGoes with
  | absent _ hGet hCell =>
      rw [hCall] at hGet
      cases hGet
      cases hAt
      cases hRead
      exact Or.inr ⟨rfl, (Tally.count_of_no_cell hCell).symm⟩
  | loaded _ hGet =>
      rw [hCall] at hGet
      cases hGet
      cases hAt
      cases hRead
      exact Or.inr ⟨rfl, rfl⟩
  | returned hStage =>
      rw [hStage]
      exact Or.inl ⟨hAt, hRead⟩
  | finished => exact Or.inl ⟨hAt, hRead⟩
  | added => cases hRead
  | _ => cases hAt

end Goes

end TallyTask

end UrlShortener

------------------------------------------------------------
-- Sound Races
------------------------------------------------------------

namespace UrlShortener

namespace TallyRace

/-
  The tally counts what was added, a cell that is held is
  there, and what was read is what had been added when it
  was read.
-/
structure Sound (r : TallyRace) : Prop where
  timely : ∀ a ∈ r.tasks, a.Timely r.time
  counted :
    ∀ code,
      r.tally.count code =
        r.tasks.countP (TallyTask.added code)
  held :
    ∀ a ∈ r.tasks, a.stage = .holding →
      r.tally.hasCell a.call.code = true
  reads :
    ∀ a ∈ r.tasks, ∀ code at_ n,
      a.call = .get code → a.stage.settledAt = some at_ →
      a.stage.answer? = some (.read n) →
        n = r.tasks.countP (TallyTask.addedBefore code at_)

theorem sound_start : start.Sound where
  timely := nofun
  counted := fun _ => rfl
  held := nofun
  reads := nofun

namespace Sound

variable {r r' : TallyRace}

/- All that was added was added before now. -/
theorem counted_now
    (hSound : r.Sound)
    (code : String) :
    r.tally.count code =
      r.tasks.countP (TallyTask.addedBefore code r.time) := by
  rw [hSound.counted]
  refine List.countP_congr ?_
  intro a hMem
  unfold TallyTask.added TallyTask.addedBefore
  cases hAt : a.stage.settledAt with
  | none => rfl
  | some at_ =>
      have hTime := ((hSound.timely a hMem).settled at_ hAt).2
      simp [hTime]

theorem idle (hSound : r.Sound) : r.idle.Sound where
  timely := fun a hMem => (hSound.timely a hMem).later
  counted := hSound.counted
  held := hSound.held
  reads := hSound.reads

theorem join
    (hSound : r.Sound)
    (call : TallyCall) : (r.join call).Sound where
  timely := by
    refine List.forall_mem_append.mpr ⟨hSound.idle.timely, ?_⟩
    exact List.forall_mem_singleton.mpr
      ⟨Nat.lt_succ_self _, nofun, nofun⟩
  counted := by
    intro code
    simp [TallyRace.join, TallyTask.added,
      TallyStage.settledAt, hSound.counted]
  held :=
    List.forall_mem_append.mpr
      ⟨hSound.held, List.forall_mem_singleton.mpr nofun⟩
  reads := by
    intro a hMem code at_ n hCall hAt hRead
    rcases List.mem_append.mp hMem with hOld | hNew
    · simp [TallyRace.join, TallyTask.addedBefore,
        TallyStage.settledAt,
        hSound.reads a hOld code at_ n hCall hAt hRead]
    · obtain rfl := List.mem_singleton.mp hNew
      cases hAt

/- A call that went on counts as before if it did not add. -/
theorem countP_replace
    {p : TallyTask → Bool}
    {before after : List TallyTask}
    {a b : TallyTask}
    (hSame : p b = p a) :
    (before ++ b :: after).countP p =
      (before ++ a :: after).countP p := by
  rw [List.countP_append, List.countP_append,
    List.countP_cons, List.countP_cons, hSame]

theorem went
    (hSound : r.Sound)
    {before after : List TallyTask}
    {a : TallyTask}
    {stage : TallyStage}
    {tally : Tally}
    (hTasks : r.tasks = before ++ a :: after)
    (hGoes : a.Goes r.time r.tally stage tally) :
    TallyRace.Sound
      { time := r.time + 1
        tally := tally
        tasks :=
          before ++ { a with stage := stage } :: after } := by
  have hMem : a ∈ r.tasks := by
    rw [hTasks]
    exact List.mem_append_right before List.mem_cons_self
  have hOthers
      {P : TallyTask → Prop}
      (hOld : ∀ b ∈ r.tasks, P b)
      (hNew : P { a with stage := stage }) :
      ∀ b ∈ before ++ { a with stage := stage } :: after,
        P b := by
    rw [hTasks] at hOld
    simp only [List.forall_mem_append, List.forall_mem_cons]
      at hOld ⊢
    exact ⟨hOld.1, hNew, hOld.2.2⟩
  have hHeld := hSound.held a hMem
  have hBefore
      (code : String)
      {at_ : Nat}
      (hTime : at_ ≤ r.time) :
      (before ++ { a with stage := stage } :: after).countP
          (TallyTask.addedBefore code at_) =
        r.tasks.countP (TallyTask.addedBefore code at_) := by
    rw [hTasks]
    exact countP_replace (hGoes.addedBefore code hTime)
  refine ⟨?_, ?_, ?_, ?_⟩
  · exact hOthers (fun b hOld => (hSound.timely b hOld).later)
      (hGoes.timely (hSound.timely a hMem))
  · intro code
    have hCount := hGoes.count hHeld code
    have hOld := hSound.counted code
    rw [hTasks] at hOld
    simp only [List.countP_append, List.countP_cons]
      at hOld ⊢
    omega
  · exact hOthers
      (fun b hOld hStage =>
        hGoes.hasCell (hSound.held b hOld hStage))
      (fun hStage => hGoes.holds hStage hHeld)
  · refine hOthers ?_ ?_
    · intro b hOld code at_ n hCall hAt hRead
      have hPast := ((hSound.timely b hOld).settled at_ hAt).2
      rw [hBefore code (Nat.le_of_lt hPast)]
      exact hSound.reads b hOld code at_ n hCall hAt hRead
    · intro code at_ n hCall hAt hRead
      rcases hGoes.reads hCall hAt hRead with
        ⟨hOldAt, hOldRead⟩ | ⟨rfl, rfl⟩
      · have hPast :=
          ((hSound.timely a hMem).settled at_ hOldAt).2
        rw [hBefore code (Nat.le_of_lt hPast)]
        exact hSound.reads a hMem code at_ n hCall hOldAt
          hOldRead
      · rw [hBefore code (Nat.le_refl _)]
        exact hSound.counted_now code

theorem step
    (hSound : r.Sound)
    (hEffect : Effect r r') : r'.Sound := by
  cases hEffect with
  | idle => exact hSound.idle
  | began call => exact hSound.join call
  | went hTasks hGoes => exact hSound.went hTasks hGoes

end Sound

/- Every race of calls is sound. -/
theorem run_sound (moves : List TallyMove) :
    (start.run moves).Sound :=
  run_induction Sound.step sound_start moves

end TallyRace

end UrlShortener

------------------------------------------------------------
-- Nothing Is Lost
------------------------------------------------------------

namespace UrlShortener

namespace TallyTask

/- A reading of the count of a code that came to an end. -/
structure HasRead
    (a : TallyTask)
    (code : String)
    (n end_ : Nat) : Prop where
  call : a.call = .get code
  answer : a.stage.answer? = some (.read n)
  ended : a.stage.endedAt = some end_

variable {code : String} {a b : TallyTask} {at_ end_ : Nat}

theorem addedBefore_iff :
    a.addedBefore code at_ = true ↔
      a.call = .increment code ∧
        ∃ done,
          a.stage.settledAt = some done ∧ done < at_ := by
  simp [addedBefore, increments, Option.any_eq_true]

theorem endedBefore_iff :
    a.endedBefore code at_ = true ↔
      a.call = .increment code ∧
        ∃ end_, a.stage.endedAt = some end_ ∧ end_ < at_ := by
  simp [endedBefore, increments, Option.any_eq_true]

theorem begunBefore_iff :
    a.begunBefore code at_ = true ↔
      a.call = .increment code ∧ a.begun < at_ := by
  simp [begunBefore, increments]

end TallyTask

namespace TallyRace

variable {r : TallyRace}

namespace Sound

/- What was read had been added at a time in between. -/
theorem read_at
    (hSound : r.Sound)
    {a : TallyTask}
    {code : String}
    {n end_ : Nat}
    (hMem : a ∈ r.tasks)
    (hRead : a.HasRead code n end_) :
    ∃ at_, a.begun < at_ ∧ at_ < end_ ∧
      n = r.tasks.countP (TallyTask.addedBefore code at_) := by
  have hTimely := hSound.timely a hMem
  rcases hTimely.ended end_ hRead.ended with
    ⟨_, at_, hAt, hEnd⟩
  exact ⟨at_, (hTimely.settled at_ hAt).1, hEnd,
    hSound.reads a hMem code at_ n hRead.call hAt
      hRead.answer⟩

/- What had ended before a time had added before it. -/
theorem ended_le_added
    (hSound : r.Sound)
    (code : String)
    {time at_ : Nat}
    (hTime : time ≤ at_) :
    r.tasks.countP (TallyTask.endedBefore code time) ≤
      r.tasks.countP (TallyTask.addedBefore code at_) := by
  refine List.countP_mono_left ?_
  intro a hMem hEnded
  rw [TallyTask.endedBefore_iff] at hEnded
  rcases hEnded with ⟨hCall, end_, hEnd, hBefore⟩
  rcases (hSound.timely a hMem).ended end_ hEnd with
    ⟨_, done, hDone, hLess⟩
  exact TallyTask.addedBefore_iff.mpr
    ⟨hCall, done, hDone, by omega⟩

/- What had added before a time had begun before it. -/
theorem added_le_begun
    (hSound : r.Sound)
    (code : String)
    {at_ time : Nat}
    (hTime : at_ ≤ time) :
    r.tasks.countP (TallyTask.addedBefore code at_) ≤
      r.tasks.countP (TallyTask.begunBefore code time) := by
  refine List.countP_mono_left ?_
  intro a hMem hAdded
  rw [TallyTask.addedBefore_iff] at hAdded
  rcases hAdded with ⟨hCall, done, hDone, hBefore⟩
  have hBegun := ((hSound.timely a hMem).settled done hDone).1
  exact TallyTask.begunBefore_iff.mpr ⟨hCall, by omega⟩

/- What had added before a time had added before a later one. -/
theorem added_le_added
    (r : TallyRace)
    (code : String)
    {at_ time : Nat}
    (hTime : at_ ≤ time) :
    r.tasks.countP (TallyTask.addedBefore code at_) ≤
      r.tasks.countP (TallyTask.addedBefore code time) := by
  refine List.countP_mono_left ?_
  intro a hMem hAdded
  rw [TallyTask.addedBefore_iff] at hAdded ⊢
  rcases hAdded with ⟨hCall, done, hDone, hBefore⟩
  exact ⟨hCall, done, hDone, by omega⟩

/- Once a call that counts has ended, it has added. -/
theorem counted_of_ended
    (hSound : r.Sound)
    (hEnded : ∀ a ∈ r.tasks, a.stage.endedAt.isSome = true)
    (code : String) :
    r.tally.count code =
      r.tasks.countP (TallyTask.increments code) := by
  rw [hSound.counted]
  refine List.countP_congr ?_
  intro a hMem
  rcases Option.isSome_iff_exists.mp (hEnded a hMem) with
    ⟨end_, hEnd⟩
  rcases (hSound.timely a hMem).ended end_ hEnd with
    ⟨_, at_, hAt, _⟩
  simp [TallyTask.added, hAt]

/- A step of a call that counts no visit of a code. -/
theorem count_of_other
    (hSound : r.Sound)
    {n : Nat}
    {a : TallyTask}
    {code : String}
    (hTask : r.tasks[n]? = some a)
    (hOther : a.call ≠ .increment code) :
    (r.step (.go n)).tally.count code =
      r.tally.count code := by
  have hMem := List.mem_of_getElem? hTask
  have hCount :=
    (TallyTask.next_goes r.time r.tally a).count
      (hSound.held a hMem) code
  simp only [TallyRace.step, hTask]
  simpa [TallyTask.added, TallyTask.increments, hOther]
    using hCount

end Sound

/-
  However the steps of calls are interleaved, the count of a
  code is the number of its increments that have added, so
  it is the number of all of them when all calls are over. A
  count that is read lies between the increments that had
  ended before the reading began and those that had begun
  before it ended, and is no less than a count that was read
  earlier. A code without a cell reads zero, and nobody but
  the increments of a code touches its count.
-/
theorem no_increment_is_lost (moves : List TallyMove) :
    let r := start.run moves
    (∀ code,
      r.tally.count code =
        r.tasks.countP (TallyTask.added code)) ∧
    ((∀ a ∈ r.tasks, a.stage.endedAt.isSome = true) →
      ∀ code,
        r.tally.count code =
          r.tasks.countP (TallyTask.increments code)) ∧
    (∀ a ∈ r.tasks, ∀ code n end_,
      a.HasRead code n end_ →
        r.tasks.countP
            (TallyTask.endedBefore code a.begun) ≤ n ∧
        n ≤ r.tasks.countP
            (TallyTask.begunBefore code end_)) ∧
    (∀ a ∈ r.tasks, ∀ b ∈ r.tasks,
      ∀ code m n end_ later,
        a.HasRead code m end_ → b.HasRead code n later →
        end_ < b.begun → m ≤ n) ∧
    (∀ n a code,
      r.tasks[n]? = some a →
      a.call = .get code → a.stage = .begun →
      r.tally.hasCell code = false →
        r.tally.count code = 0 ∧
        ((r.step (.go n)).tasks[n]?.bind fun b =>
          b.stage.answer?) = some (.read 0)) ∧
    (∀ n a code,
      r.tasks[n]? = some a → a.call ≠ .increment code →
        (r.step (.go n)).tally.count code =
          r.tally.count code) := by
  intro r
  have hSound : r.Sound := run_sound moves
  refine ⟨hSound.counted, hSound.counted_of_ended, ?_, ?_,
    ?_, ?_⟩
  · intro a hMem code n end_ hRead
    rcases hSound.read_at hMem hRead with
      ⟨at_, hBegun, hEnd, rfl⟩
    exact ⟨hSound.ended_le_added code (Nat.le_of_lt hBegun),
      hSound.added_le_begun code (Nat.le_of_lt hEnd)⟩
  · intro a hMem b hMem' code m n end_ later hRead hLater
      hAfter
    rcases hSound.read_at hMem hRead with
      ⟨at_, _, hEnd, rfl⟩
    rcases hSound.read_at hMem' hLater with
      ⟨time, hBegun, _, rfl⟩
    exact Sound.added_le_added r code (by omega)
  · intro n a code hTask hCall hStage hCell
    refine ⟨Tally.count_of_no_cell hCell, ?_⟩
    have hLength := (List.getElem?_eq_some_iff.mp hTask).1
    simp [step, hTask, TallyTask.next, hStage, hCall, hCell,
      List.getElem?_set_self hLength, TallyStage.answer?]
  · intro n a code hTask hOther
    exact hSound.count_of_other hTask hOther

/- Two calls that both found no cell are both counted. -/
example :
    let r := start.run
      [.begin (.increment "abc"), .begin (.increment "abc"),
        .go 0, .go 1, .go 0, .go 0, .go 1, .go 1]
    (r.tasks.map fun a => a.stage.settledAt) =
        [some 5, some 7] ∧
      r.tally.count "abc" = 2 := by
  decide

end TallyRace

end UrlShortener
