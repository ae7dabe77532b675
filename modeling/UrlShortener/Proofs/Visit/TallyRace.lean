import UrlShortener.Proofs.Visit.Recording

/-
  Calls of the tally that run at once. Counting a visit takes
  up to three steps on the map of cells: it looks up the cell
  of its code; if there is none, it makes one at zero, unless
  somebody else did so in the meantime; and it adds one to
  the cell. What was seen by the first step may be out of
  date by the second. Reading a count looks up the cell and
  then loads it. Made together, the steps are those of the
  tally itself; a map that makes some of them under one lock
  has fewer orders of steps than there are here. A cell holds
  a number of any size: one of 64 bits agrees with it until
  its count comes to 2^64.

  Key definitions include:
    * `Tally.makeCell`
    * `Tally.addToCell`
    * `TallyRace`
    * `TallyRace.step`
    * `TallyRace.run`

  Main declarations:
    * `Tally.addToCell_makeCell`
    * `Tally.count_addToCell`
    * `TallyTask.Goes`
    * `TallyRace.step_effect`
-/

------------------------------------------------------------
-- Cells
------------------------------------------------------------

namespace UrlShortener

namespace Tally

/- Whether a code has a cell. -/
def hasCell (t : Tally) (code : String) : Bool :=
  t.counts.any fun c => c.1 == code

/- Make a cell at zero for a code that has none. -/
def makeCell (t : Tally) (code : String) : Tally :=
  if t.hasCell code then t else ⟨t.counts ++ [(code, 0)]⟩

/- Add one to the cell of a code in a list of cells. -/
def bumpCell (code : String) :
    List (String × Nat) → List (String × Nat)
| [] => []
| (name, n) :: rest =>
    if name = code then (name, n + 1) :: rest
    else (name, n) :: bumpCell code rest

/- Add one to the cell of a code, if it has one. -/
def addToCell (t : Tally) (code : String) : Tally :=
  ⟨bumpCell code t.counts⟩

variable {t : Tally} {code : String}

theorem makeCell_of_hasCell
    (hCell : t.hasCell code = true) : t.makeCell code = t := by
  rw [makeCell, if_pos hCell]

theorem bump_of_hasCell
    {counts : List (String × Nat)}
    (hCell : (Tally.mk counts).hasCell code = true) :
    bumpCell code counts = bump code counts := by
  induction counts with
  | nil => cases hCell
  | cons entry counts ih =>
      rcases entry with ⟨name, n⟩
      rw [bumpCell, bump]
      by_cases hName : name = code
      · rw [if_pos hName, if_pos hName]
      · have hRest : (Tally.mk counts).hasCell code = true := by
          rw [hasCell, List.any_cons, Bool.or_eq_true,
            beq_iff_eq] at hCell
          exact hCell.resolve_left hName
        rw [if_neg hName, if_neg hName, ih hRest]

theorem bump_of_no_cell
    {counts : List (String × Nat)}
    (hCell : (Tally.mk counts).hasCell code = false) :
    bumpCell code (counts ++ [(code, 0)]) =
      bump code counts := by
  induction counts with
  | nil => rw [List.nil_append, bumpCell, if_pos rfl, bump]
  | cons entry counts ih =>
      rcases entry with ⟨name, n⟩
      rw [hasCell, List.any_cons, Bool.or_eq_false_iff,
        beq_eq_false_iff_ne] at hCell
      rw [List.cons_append, bumpCell, bump, if_neg hCell.1,
        if_neg hCell.1, ih hCell.2]

/-
  Counting a visit is making a cell if there is none, and
  adding one to it.
-/
theorem addToCell_makeCell (t : Tally) (code : String) :
    (t.makeCell code).addToCell code = t.increment code := by
  cases hCell : t.hasCell code with
  | true =>
      rw [makeCell_of_hasCell hCell]
      exact congrArg Tally.mk (bump_of_hasCell hCell)
  | false =>
      rw [makeCell, hCell, if_neg Bool.false_ne_true]
      exact congrArg Tally.mk (bump_of_no_cell hCell)

/- Adding to a cell adds one to its code and to no other. -/
theorem count_addToCell
    (hCell : t.hasCell code = true)
    (other : String) :
    (t.addToCell code).count other =
      t.count other + if code = other then 1 else 0 := by
  rw [← count_increment, ← addToCell_makeCell,
    makeCell_of_hasCell hCell]

theorem count_of_no_cell
    (hCell : t.hasCell code = false) : t.count code = 0 := by
  have hNone :
      t.counts.find? (fun c => c.1 == code) = none := by
    rw [List.find?_eq_none]
    intro c hMem
    rw [hasCell, List.any_eq_false] at hCell
    exact hCell c hMem
  rw [count, hNone]
  rfl

/- A cell that is made counts nothing. -/
theorem count_makeCell
    (t : Tally)
    (code other : String) :
    (t.makeCell code).count other = t.count other := by
  cases hCell : t.hasCell code with
  | true => rw [makeCell_of_hasCell hCell]
  | false =>
      rw [makeCell, hCell, if_neg Bool.false_ne_true]
      unfold count
      rw [List.find?_append]
      cases hFound : t.counts.find? fun c => c.1 == other with
      | some c => rfl
      | none =>
          rw [Option.none_or, List.find?_singleton]
          split
          · rfl
          · rfl

theorem hasCell_makeCell
    (t : Tally)
    (code : String) :
    (t.makeCell code).hasCell code = true := by
  cases hCell : t.hasCell code with
  | true => rw [makeCell_of_hasCell hCell, hCell]
  | false =>
      rw [makeCell, hCell, if_neg Bool.false_ne_true]
      simp [hasCell]

/- No cell is ever taken away. -/
theorem hasCell_makeCell_of_hasCell
    (hCell : t.hasCell code = true)
    (other : String) :
    (t.makeCell other).hasCell code = true := by
  unfold makeCell
  split
  · exact hCell
  · rw [hasCell, List.any_append, Bool.or_eq_true]
    exact Or.inl hCell

theorem hasCell_addToCell
    (t : Tally)
    (code other : String) :
    (t.addToCell code).hasCell other = t.hasCell other := by
  have hSame
      (counts : List (String × Nat)) :
      (bumpCell code counts).any (fun c => c.1 == other) =
        counts.any (fun c => c.1 == other) := by
    induction counts with
    | nil => rfl
    | cons entry counts ih =>
        rw [bumpCell]
        split
        · rfl
        · rw [List.any_cons, List.any_cons, ih]
  exact hSame t.counts

end Tally

end UrlShortener

------------------------------------------------------------
-- Races
------------------------------------------------------------

namespace UrlShortener

inductive TallyCall where
| increment (code : String)
| get (code : String)
deriving DecidableEq, Repr

def TallyCall.code : TallyCall → String
| .increment code => code
| .get code => code

inductive TallyAnswer where
| counted
| read (n : Nat)
deriving DecidableEq, Repr

/-
  How far a call has come: it has begun, it has looked up
  the cell of its code and found it or not, it is settled
  since a time, or it has ended at a time as well.
-/
inductive TallyStage where
| begun
| holding
| missing
| settled (at_ : Nat) (answer : TallyAnswer)
| ended (at_ : Nat) (answer : TallyAnswer) (time : Nat)
deriving DecidableEq, Repr

namespace TallyStage

/- When the call was settled, if it is. -/
def settledAt : TallyStage → Option Nat
| .settled at_ _ => some at_
| .ended at_ _ _ => some at_
| _ => none

/- When the call ended, if it has. -/
def endedAt : TallyStage → Option Nat
| .ended _ _ time => some time
| _ => none

/- What the call is answered, once that is settled. -/
def answer? : TallyStage → Option TallyAnswer
| .settled _ answer => some answer
| .ended _ answer _ => some answer
| _ => none

end TallyStage

/- A call, and when it began. -/
structure TallyTask where
  call : TallyCall
  begun : Nat
  stage : TallyStage
deriving DecidableEq, Repr

namespace TallyTask

/-
  The next step of a call at a time: how far it comes, and
  the tally that it leaves.
-/
def next
    (time : Nat)
    (t : Tally)
    (a : TallyTask) : TallyStage × Tally :=
  match a.stage, a.call with
  | .begun, .increment code =>
      (if t.hasCell code then .holding else .missing, t)
  | .begun, .get code =>
      (if t.hasCell code then .holding
        else .settled time (.read 0), t)
  | .missing, call => (.holding, t.makeCell call.code)
  | .holding, .increment code =>
      (.settled time .counted, t.addToCell code)
  | .holding, .get code =>
      (.settled time (.read (t.count code)), t)
  | .settled at_ answer, _ => (.ended at_ answer time, t)
  | .ended at_ answer ended, _ => (.ended at_ answer ended, t)

end TallyTask

/-
  A tally and the calls that have begun, in the order in
  which they did, after a number of steps.
-/
structure TallyRace where
  time : Nat
  tally : Tally
  tasks : List TallyTask
deriving DecidableEq, Repr

/- A call begins, or the call of a number makes its next step. -/
inductive TallyMove where
| begin (call : TallyCall)
| go (n : Nat)
deriving DecidableEq, Repr

namespace TallyRace

/- A tally that nobody has called. -/
def start : TallyRace :=
  { time := 0, tally := .empty, tasks := [] }

/- A step that changes nothing. -/
def idle (r : TallyRace) : TallyRace :=
  { r with time := r.time + 1 }

/- Begin a call. -/
def join (r : TallyRace) (call : TallyCall) : TallyRace :=
  { r with
      time := r.time + 1
      tasks :=
        r.tasks ++ [{ call, begun := r.time, stage := .begun }] }

/- Make a step. One that is not possible changes nothing. -/
def step (r : TallyRace) : TallyMove → TallyRace
| .begin call => r.join call
| .go n =>
    match r.tasks[n]? with
    | none => r.idle
    | some a =>
        let went := a.next r.time r.tally
        { time := r.time + 1
          tally := went.2
          tasks := r.tasks.set n { a with stage := went.1 } }

/- Make steps one after another. -/
def run (r : TallyRace) (moves : List TallyMove) : TallyRace :=
  moves.foldl step r

end TallyRace

end UrlShortener

------------------------------------------------------------
-- What A Step Can Do
------------------------------------------------------------

namespace UrlShortener

namespace TallyTask

/- All that the next step of a call can do. -/
inductive Goes
    (time : Nat)
    (t : Tally)
    (a : TallyTask) : TallyStage → Tally → Prop where
| found
    (hStage : a.stage = .begun)
    (hCell : t.hasCell a.call.code = true) :
    Goes time t a .holding t
| missed
    {code : String}
    (hStage : a.stage = .begun)
    (hCall : a.call = .increment code) :
    Goes time t a .missing t
| absent
    {code : String}
    (hStage : a.stage = .begun)
    (hCall : a.call = .get code)
    (hCell : t.hasCell code = false) :
    Goes time t a (.settled time (.read 0)) t
| made
    (hStage : a.stage = .missing) :
    Goes time t a .holding (t.makeCell a.call.code)
| added
    {code : String}
    (hStage : a.stage = .holding)
    (hCall : a.call = .increment code) :
    Goes time t a (.settled time .counted) (t.addToCell code)
| loaded
    {code : String}
    (hStage : a.stage = .holding)
    (hCall : a.call = .get code) :
    Goes time t a (.settled time (.read (t.count code))) t
| returned
    {at_ : Nat}
    {answer : TallyAnswer}
    (hStage : a.stage = .settled at_ answer) :
    Goes time t a (.ended at_ answer time) t
| finished
    {at_ ended : Nat}
    {answer : TallyAnswer}
    (hStage : a.stage = .ended at_ answer ended) :
    Goes time t a a.stage t

theorem next_goes
    (time : Nat)
    (t : Tally)
    (a : TallyTask) :
    Goes time t a (a.next time t).1 (a.next time t).2 := by
  rcases a with ⟨call, begun, stage⟩
  cases stage with
  | begun =>
      cases call with
      | increment code =>
          cases hCell : t.hasCell code with
          | true =>
              simp only [next, hCell, if_true]
              exact .found rfl hCell
          | false =>
              simp only [next, hCell, Bool.false_eq_true,
                if_false]
              exact .missed rfl rfl
      | get code =>
          cases hCell : t.hasCell code with
          | true =>
              simp only [next, hCell, if_true]
              exact .found rfl hCell
          | false =>
              simp only [next, hCell, Bool.false_eq_true,
                if_false]
              exact .absent rfl rfl hCell
  | holding =>
      cases call with
      | increment code => exact .added rfl rfl
      | get code => exact .loaded rfl rfl
  | missing => exact .made rfl
  | settled at_ answer => exact .returned rfl
  | ended at_ answer ended => exact .finished rfl

end TallyTask

namespace TallyRace

variable {r r' : TallyRace}

/- All that a step can make of a race. -/
inductive Effect (r : TallyRace) : TallyRace → Prop where
| idle : Effect r r.idle
| began (call : TallyCall) : Effect r (r.join call)
| went
    {before after : List TallyTask}
    {a : TallyTask}
    {stage : TallyStage}
    {tally : Tally}
    (hTasks : r.tasks = before ++ a :: after)
    (hGoes : a.Goes r.time r.tally stage tally) :
    Effect r
      { time := r.time + 1
        tally := tally
        tasks := before ++ { a with stage := stage } :: after }

theorem step_effect
    (r : TallyRace)
    (move : TallyMove) : Effect r (r.step move) := by
  cases move with
  | begin call => exact .began call
  | go n =>
      simp only [step]
      cases hTask : r.tasks[n]? with
      | none => exact .idle
      | some a =>
          rcases List.getElem?_eq_some_iff.mp hTask with
            ⟨hLength, rfl⟩
          have hTasks :
              r.tasks =
                r.tasks.take n ++
                  r.tasks[n] :: r.tasks.drop (n + 1) := by
            rw [List.getElem_cons_drop,
              List.take_append_drop]
          simp only [List.set_eq_take_append_cons_drop,
            if_pos hLength]
          exact .went hTasks (TallyTask.next_goes _ _ _)

/- What every step keeps, every run keeps. -/
theorem run_induction
    {P : TallyRace → Prop}
    (hStep : ∀ {r r'}, P r → Effect r r' → P r')
    (hStart : P r)
    (moves : List TallyMove) : P (r.run moves) := by
  induction moves generalizing r with
  | nil => exact hStart
  | cons move moves ih =>
      exact ih (hStep hStart (step_effect r move))

end TallyRace

end UrlShortener
