import UrlShortener.App.Run
import UrlShortener.Proofs.Backend.Reply
import UrlShortener.Proofs.Link.Minting
import UrlShortener.Proofs.Service.Course
import UrlShortener.Proofs.Store.Content

/-
  Single steps of a dialogue with the service. Running a
  dialogue is making its steps one after another; between
  them, the service is free to do something else.

  Key definitions include:
    * `Dialogue.proceed?`
    * `App.Extends`
    * `App.Fit`

  Main declarations:
    * `Dialogue.run_of_proceed?`
    * `Dialogue.exists_course`
    * `Dialogue.run_side_by_side`
    * `Dialogue.proceed?_store_cases`
    * `App.Extends.proceed`
    * `App.Fit.proceed`
-/

------------------------------------------------------------
-- Steps
------------------------------------------------------------

namespace UrlShortener

namespace Dialogue

variable {α : Type}

/-
  Make one call, and tell what it was answered, what is left
  of the dialogue and the state that the call leaves.
-/
def proceed?
    (w : Surroundings)
    (s : App) :
    Dialogue α → Option (Event × Dialogue α × App)
| .done _ => none
| .readClock next =>
    let read := s.readClock w
    some (.clock read.1, next read.1, read.2)
| .draw length next =>
    let drawn := s.draw w length
    some (.drew drawn.1, next drawn.1, drawn.2)
| .save limit new next =>
    let begun := s.beginSave
    let ended := begun.2.endSave w (begun.1.within limit) new
    some (.saved ended.1, next ended.1, ended.2)
| .find limit code next =>
    let begun := s.beginFind
    let found :=
      begun.2.links.endFind (begun.1.within limit) code
    some (.found found, next found, begun.2)
| .count limit code next =>
    let begun := s.beginCount
    let counted :=
      begun.2.counter.endGet (begun.1.within limit) code
    some (.counted counted, next counted, begun.2)
| .probe limit next =>
    let begun := s.beginProbe
    let ofStore :=
      begun.2.links.endPing (begun.1.1.within limit)
    let ofCounter :=
      CounterBackend.endPing (begun.1.2.within limit)
    some
      (.probed ofStore ofCounter, next ofStore ofCounter,
        begun.2)
| .visit code next =>
    let offered := s.visit code
    some (.offered offered.1, next offered.1, offered.2)
| .places next => some (.places s.places, next s.places, s)
| .note metric next => some (.noted, next, s.note metric)

variable {w : Surroundings} {s s' : App}
variable {d d' : Dialogue α} {e : Event}

/- The call is answered by an event. -/
theorem feed?_of_proceed?
    (hStep : d.proceed? w s = some (e, d', s')) :
    d.feed? e = some d' := by
  cases d <;> cases hStep <;> rfl

/- The rest of a run is the run of the rest. -/
theorem run_of_proceed?
    (hStep : d.proceed? w s = some (e, d', s')) :
    d.run w s = d'.run w s' := by
  cases d <;> cases hStep <;> rfl

/- What every step keeps, a run keeps. -/
theorem run_induction
    {P : Dialogue α → App → Prop}
    (hStep :
      ∀ {d s e d' s'}, P d s →
        d.proceed? w s = some (e, d', s') → P d' s')
    (hStart : P d s) :
    P (.done (d.run w s).1) (d.run w s).2 := by
  induction d generalizing s with
  | done result => exact hStart
  | readClock next ih => exact ih _ (hStep hStart rfl)
  | draw length next ih => exact ih _ (hStep hStart rfl)
  | save limit new next ih => exact ih _ (hStep hStart rfl)
  | find limit code next ih => exact ih _ (hStep hStart rfl)
  | count limit code next ih => exact ih _ (hStep hStart rfl)
  | probe limit next ih => exact ih _ _ (hStep hStart rfl)
  | visit code next ih => exact ih _ (hStep hStart rfl)
  | places next ih => exact ih _ (hStep hStart rfl)
  | note metric next ih => exact ih (hStep hStart rfl)

/- A run is one of the courses that a dialogue may take. -/
theorem exists_course
    (w : Surroundings)
    (d : Dialogue α)
    (s : App) :
    ∃ events, d.after events = some (.done (d.run w s).1) := by
  refine run_induction (w := w) (d := d)
    (P := fun d' _ => ∃ events, d.after events = some d') ?_
    ⟨[], rfl⟩
  rintro d' s e next s' ⟨events, hAfter⟩ hStep
  exact ⟨events ++ [e],
    after_concat hAfter (feed?_of_proceed? hStep)⟩

/- A run is closed as every course is. -/
theorem Closes.run
    {Q : α → Prop}
    {before : List Event}
    (hCloses : d.Closes (fun _ => Q) before)
    (s : App) : Q (d.run w s).1 := by
  rcases exists_course w d s with ⟨events, hAfter⟩
  exact hCloses.after hAfter

/-
  Two runs go on side by side as long as what one call
  leaves of the dialogue in the one, it leaves in the other.
-/
theorem run_side_by_side
    {P : Dialogue α → App → App → Prop}
    (hStep :
      ∀ {d s s' e d' t}, P d s s' →
        d.proceed? w s = some (e, d', t) →
          ∃ e' t', d.proceed? w s' = some (e', d', t') ∧
            P d' t t')
    (hStart : P d s s') :
    (d.run w s').1 = (d.run w s).1 ∧
      P (.done (d.run w s).1) (d.run w s).2
        (d.run w s').2 := by
  have hBoth :=
    run_induction (w := w)
      (P := fun rest t =>
        ∃ t', P rest t t' ∧ rest.run w t' = d.run w s')
      (fun ⟨t', hBoth, hRun⟩ hOwn =>
        have ⟨_, t'', hOther, hNext⟩ := hStep hBoth hOwn
        ⟨t'', hNext, (run_of_proceed? hOther).symm.trans hRun⟩)
      ⟨s', hStart, rfl⟩
  rcases hBoth with ⟨t', hEnd, hRun⟩
  rw [← hRun]
  exact ⟨rfl, hEnd⟩

end Dialogue

end UrlShortener

------------------------------------------------------------
-- What A Step Does To The Links
------------------------------------------------------------

namespace UrlShortener

namespace StoreBackend

/-
  All that the end of a save can do: leave the links as they
  are and answer no link, or store a link under a free code.
-/
theorem endSave_cases
    (b : StoreBackend)
    (came : Option (Option StoreFault))
    (new : NewLink)
    (now : Timestamp) :
    ((b.endSave came new now).2 = b ∧
      ∀ link, (b.endSave came new now).1 ≠ some (.ok link)) ∨
    (b.store.get? new.shortCode = none ∧
      b.endSave came new now =
        (some (.ok (b.store.insert new now).1),
          { b with store := (b.store.insert new now).2 })) := by
  rcases came with _ | _ | fault
  · exact Or.inl ⟨rfl, nofun⟩
  · unfold endSave
    rcases b.store.save_cases new now with
      ⟨_, hSave⟩ | ⟨_, _, hSave⟩ | ⟨_, hFree, hSave⟩
    · rw [hSave]
      exact Or.inl ⟨rfl, nofun⟩
    · rw [hSave]
      exact Or.inl ⟨rfl, nofun⟩
    · rw [hSave]
      exact Or.inr ⟨hFree, rfl⟩
  · exact Or.inl ⟨rfl, nofun⟩

@[simp] theorem endSave_finds
    (b : StoreBackend)
    (came : Option (Option StoreFault))
    (new : NewLink)
    (now : Timestamp) :
    (b.endSave came new now).2.finds = b.finds := by
  rcases came with _ | _ | fault <;> rfl

end StoreBackend

namespace App

variable (w : Surroundings) (s : App)

/- Queueing a visit touches nothing but the queue. -/
theorem visit_eq (code : String) :
    (s.visit code).2 =
      { s with queue := (s.visit code).2.queue } := by
  unfold visit
  split
  · rfl
  · rfl

@[simp] theorem visit_links (code : String) :
    (s.visit code).2.links = s.links := by
  rw [visit_eq]

@[simp] theorem visit_minter (code : String) :
    (s.visit code).2.minter = s.minter := by
  rw [visit_eq]

@[simp] theorem visit_readings (code : String) :
    (s.visit code).2.readings = s.readings := by
  rw [visit_eq]

end App

namespace Dialogue

variable {α : Type} {w : Surroundings} {s s' : App}
variable {d d' : Dialogue α} {e : Event}

/-
  All that a step can do to the links: nothing, without a
  word of a link that was saved, or store a link under a free
  code, and answer it.
-/
theorem proceed?_store_cases
    (hStep : d.proceed? w s = some (e, d', s')) :
    (s'.links.store = s.links.store ∧
      ∀ link, e ≠ .saved (some (.ok link))) ∨
    ∃ limit new next,
      d = .save limit new next ∧
      s.links.store.get? new.shortCode = none ∧
      e = .saved (some (.ok
        (s.links.store.insert new (w.clock s.readings)).1)) ∧
      s'.links.store =
        (s.links.store.insert new (w.clock s.readings)).2 := by
  cases d with
  | save limit new next =>
      cases hStep
      rcases s.beginSave.2.links.endSave_cases
          (s.beginSave.1.within limit) new
          (w.clock s.readings) with
        ⟨hSame, hNone⟩ | ⟨hFree, hSave⟩
      · have hStore := congrArg StoreBackend.store hSame
        refine Or.inl ⟨hStore, ?_⟩
        intro link hEvent
        exact hNone link (Event.saved.inj hEvent)
      · refine Or.inr ⟨limit, new, next, rfl, hFree, ?_, ?_⟩
        · exact congrArg Event.saved (congrArg Prod.fst hSave)
        · exact congrArg (fun p => p.2.store) hSave
  | visit code next =>
      cases hStep
      exact Or.inl ⟨by simp, nofun⟩
  | done result => cases hStep
  | _ =>
      cases hStep
      exact Or.inl ⟨rfl, nofun⟩

/- Reading the clock takes its next reading. -/
theorem readings_of_proceed?
    (hStep : d.proceed? w s = some (e, d', s')) :
    s.readings ≤ s'.readings ∧
      ∀ now, e = .clock now →
        now = w.clock s.readings ∧
          s'.readings = s.readings + 1 := by
  cases d with
  | readClock next =>
      cases hStep
      refine ⟨Nat.le_succ _, ?_⟩
      intro now hEvent
      exact ⟨(Event.clock.inj hEvent).symm, rfl⟩
  | save limit new next =>
      cases hStep
      exact ⟨Nat.le_succ _, nofun⟩
  | visit code next =>
      cases hStep
      exact ⟨by simp, nofun⟩
  | done result => cases hStep
  | _ =>
      cases hStep
      exact ⟨Nat.le_refl _, nofun⟩

end Dialogue

end UrlShortener

------------------------------------------------------------
-- Later States
------------------------------------------------------------

namespace UrlShortener

namespace App

/-
  A state in which every link of an earlier one is still
  found, no number is given twice and the clock was read at
  least as often.
-/
structure Extends (s s' : App) : Prop where
  found :
    ∀ {code link}, s.links.store.get? code = some link →
      s'.links.store.get? code = some link
  lastId_le : s.links.store.lastId ≤ s'.links.store.lastId
  readings_le : s.readings ≤ s'.readings

namespace Extends

variable {w : Surroundings} {s s' s'' : App}

theorem refl (s : App) : Extends s s where
  found := id
  lastId_le := Nat.le_refl _
  readings_le := Nat.le_refl _

theorem trans
    (hFirst : Extends s s')
    (hSecond : Extends s' s'') : Extends s s'' where
  found := fun hFound => hSecond.found (hFirst.found hFound)
  lastId_le := Nat.le_trans hFirst.lastId_le hSecond.lastId_le
  readings_le :=
    Nat.le_trans hFirst.readings_le hSecond.readings_le

/- A step leads to a later state. -/
theorem proceed
    {α : Type}
    {d d' : Dialogue α}
    {e : Event}
    (hStep : d.proceed? w s = some (e, d', s')) :
    Extends s s' where
  found := by
    intro code link hFound
    rcases Dialogue.proceed?_store_cases hStep with
      ⟨hSame, _⟩ | ⟨_, new, _, _, _, _, hStore⟩
    · rw [hSame]
      exact hFound
    · rw [hStore]
      exact LinkStore.get?_insert_of_some hFound
  lastId_le := by
    rcases Dialogue.proceed?_store_cases hStep with
      ⟨hSame, _⟩ | ⟨_, new, _, _, _, _, hStore⟩
    · exact Nat.le_of_eq (congrArg LinkStore.lastId hSame).symm
    · rw [hStore]
      exact Nat.le_succ _
  readings_le := (Dialogue.readings_of_proceed? hStep).1

end Extends

end App

end UrlShortener

------------------------------------------------------------
-- States Fit For Service
------------------------------------------------------------

namespace UrlShortener

namespace App

/-
  The link store is open and has no faults of its own, and
  no code that is given out is blank.
-/
structure Fit (s : App) : Prop where
  still_open : s.links.store.closed = false
  faultless : ∀ reply ∈ s.links.finds, reply.Faultless
  never_blank : s.minter.NeverBlank

namespace Fit

variable {α : Type} {w : Surroundings} {s s' : App}
variable {d d' : Dialogue α} {e : Event}

/- A step leaves the service fit. -/
theorem proceed
    (hFit : s.Fit)
    (hStep : d.proceed? w s = some (e, d', s')) :
    s'.Fit where
  still_open := by
    rcases Dialogue.proceed?_store_cases hStep with
      ⟨hSame, _⟩ | ⟨_, new, _, _, _, _, hStore⟩
    · rw [hSame]
      exact hFit.still_open
    · rw [hStore]
      exact hFit.still_open
  faultless := by
    cases d with
    | save limit new next =>
        cases hStep
        intro reply hMem
        have hFinds :=
          s.beginSave.2.links.endSave_finds
            (s.beginSave.1.within limit) new
            (w.clock s.readings)
        apply hFit.faultless reply
        change reply ∈ s.beginSave.2.links.finds
        rw [← hFinds]
        exact hMem
    | find limit code next =>
        cases hStep
        intro reply hMem
        exact hFit.faultless reply (Reply.mem_of_mem_next hMem)
    | visit code next =>
        cases hStep
        simpa using hFit.faultless
    | done result => cases hStep
    | _ =>
        cases hStep
        exact hFit.faultless
  never_blank := by
    cases d with
    | draw length next =>
        cases hStep
        exact hFit.never_blank.draw _ _
    | visit code next =>
        cases hStep
        simpa using hFit.never_blank
    | done result => cases hStep
    | _ =>
        cases hStep
        exact hFit.never_blank

/- A code that is drawn is not blank. -/
theorem of_drew
    (hFit : s.Fit)
    {code : String}
    (hStep :
      d.proceed? w s = some (.drew (.ok code), d', s')) :
    Text.isBlankText code = false := by
  cases d with
  | draw length next =>
      simp only [Dialogue.proceed?, Option.some.injEq,
        Prod.mk.injEq, Event.drew.injEq] at hStep
      exact hFit.never_blank.of_draw hStep.1
  | _ => cases hStep

/- A look-up that was answered in time answers the store's. -/
theorem of_found
    (hFit : s.Fit)
    {result : Except StoreFault Link}
    (hStep :
      d.proceed? w s = some (.found (some result), d', s')) :
    ∃ limit code next,
      d = .find limit code next ∧
        result = s.links.store.findOpen code := by
  cases d with
  | find limit code next =>
      refine ⟨limit, code, next, rfl, ?_⟩
      simp only [Dialogue.proceed?, Option.some.injEq,
        Prod.mk.injEq, Event.found.injEq] at hStep
      have hFound := hStep.1
      cases hCame : s.beginFind.1.within limit with
      | none =>
          rw [hCame] at hFound
          cases hFound
      | some came =>
          have hNext : s.beginFind.1.Faultless :=
            Reply.faultless_next hFit.faultless
          rw [hCame, hNext.within hCame] at hFound
          cases hFound
          exact LinkStore.find_of_open hFit.still_open code
  | _ => cases hStep

end Fit

end App

end UrlShortener
