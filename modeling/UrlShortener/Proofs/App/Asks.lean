import UrlShortener.Proofs.App.Visits

/-
  The calls that a dialogue makes when it runs, in order.
  They are among those that it may make, whatever happens,
  and do not hang on what becomes of its result. How many
  codes are drawn and how much the totals grow is read off
  the calls.

  Key definitions include:
    * `Dialogue.asks`
    * `Dialogue.lookUps`

  Main declarations:
    * `Dialogue.Within.asks`
    * `Shortener.lookUps_resolve`
    * `Dialogue.run_draws`
    * `Dialogue.run_metrics`
-/

------------------------------------------------------------
-- Calls That Are Made
------------------------------------------------------------

namespace UrlShortener

/- The code that a call looks up. -/
def Ask.lookUp? : Ask → Option String
| .find key => some key
| _ => none

namespace Dialogue

variable {α β : Type}

/- The calls that a dialogue makes on its run. -/
def asks
    (w : Surroundings)
    (d : Dialogue α)
    (s : App) : List Ask :=
  match d with
  | .done _ => []
  | .readClock next =>
      let read := s.readClock w
      .clock :: (next read.1).asks w read.2
  | .draw length next =>
      let drawn := s.draw w length
      .code :: (next drawn.1).asks w drawn.2
  | .save limit new next =>
      let begun := s.beginSave
      let ended :=
        begun.2.endSave w (begun.1.within limit) new
      .save new :: (next ended.1).asks w ended.2
  | .find limit code next =>
      let begun := s.beginFind
      let found :=
        begun.2.links.endFind (begun.1.within limit) code
      .find code :: (next found).asks w begun.2
  | .count limit code next =>
      let begun := s.beginCount
      let counted :=
        begun.2.counter.endGet (begun.1.within limit) code
      .count code :: (next counted).asks w begun.2
  | .probe limit next =>
      let begun := s.beginProbe
      let ofStore :=
        begun.2.links.endPing (begun.1.1.within limit)
      let ofCounter :=
        CounterBackend.endPing (begun.1.2.within limit)
      .probe :: (next ofStore ofCounter).asks w begun.2
  | .visit code next =>
      let offered := s.visit code
      .visit code :: (next offered.1).asks w offered.2
  | .places next => .places :: (next s.places).asks w s
  | .note metric next =>
      .note metric :: next.asks w (s.note metric)

/- The codes that a dialogue looks up on its run. -/
def lookUps
    (w : Surroundings)
    (d : Dialogue α)
    (s : App) : List String :=
  (d.asks w s).filterMap Ask.lookUp?

variable {w : Surroundings} {P : Ask → Prop}

/- The result does not matter to the calls. -/
theorem asks_map
    (f : α → β)
    (d : Dialogue α)
    (s : App) : (d.map f).asks w s = d.asks w s := by
  induction d generalizing s with
  | done result => rfl
  | readClock next ih => exact congrArg _ (ih _ _)
  | draw length next ih => exact congrArg _ (ih _ _)
  | save limit new next ih => exact congrArg _ (ih _ _)
  | find limit code next ih => exact congrArg _ (ih _ _)
  | count limit code next ih => exact congrArg _ (ih _ _)
  | probe limit next ih => exact congrArg _ (ih _ _ _)
  | visit code next ih => exact congrArg _ (ih _ _)
  | places next ih => exact congrArg _ (ih _ _)
  | note metric next ih => exact congrArg _ (ih _)

/- A dialogue makes only calls that it may make. -/
theorem Within.asks
    {d : Dialogue α}
    (hWithin : d.Within P)
    (s : App) : ∀ a ∈ d.asks w s, P a := by
  induction d generalizing s with
  | done result => nofun
  | readClock next ih =>
      exact List.forall_mem_cons.mpr
        ⟨hWithin.1, ih _ (hWithin.2 _) _⟩
  | draw length next ih =>
      exact List.forall_mem_cons.mpr
        ⟨hWithin.1, ih _ (hWithin.2 _) _⟩
  | save limit new next ih =>
      exact List.forall_mem_cons.mpr
        ⟨hWithin.1, ih _ (hWithin.2 _) _⟩
  | find limit code next ih =>
      exact List.forall_mem_cons.mpr
        ⟨hWithin.1, ih _ (hWithin.2 _) _⟩
  | count limit code next ih =>
      exact List.forall_mem_cons.mpr
        ⟨hWithin.1, ih _ (hWithin.2 _) _⟩
  | probe limit next ih =>
      exact List.forall_mem_cons.mpr
        ⟨hWithin.1, ih _ _ (hWithin.2 _ _) _⟩
  | visit code next ih =>
      exact List.forall_mem_cons.mpr
        ⟨hWithin.1, ih _ (hWithin.2 _) _⟩
  | places next ih =>
      exact List.forall_mem_cons.mpr
        ⟨hWithin.1, ih _ (hWithin.2 _) _⟩
  | note metric next ih =>
      exact List.forall_mem_cons.mpr
        ⟨hWithin.1, ih hWithin.2 _⟩

/- A dialogue that may look up no code does not. -/
theorem lookUps_eq_nil
    {d : Dialogue α}
    (hWithin : d.Within fun a => a.lookUp? = none)
    (s : App) : d.lookUps w s = [] := by
  rw [lookUps, List.filterMap_eq_nil_iff]
  exact hWithin.asks s

theorem lookUps_map
    (f : α → β)
    (d : Dialogue α)
    (s : App) : (d.map f).lookUps w s = d.lookUps w s := by
  rw [lookUps, asks_map]
  rfl

end Dialogue

end UrlShortener

------------------------------------------------------------
-- Codes That Are Looked Up
------------------------------------------------------------

namespace UrlShortener

namespace Shortener

/- A link that was found is not looked up again. -/
theorem afterFind_within
    (code : String)
    (link : Link) :
    (afterFind code link).Within fun a =>
      a.lookUp? = none := by
  refine ⟨rfl, ?_⟩
  intro now
  dsimp only
  split
  · exact True.intro
  · refine ⟨rfl, rfl, ?_⟩
    intro taken
    dsimp only
    split
    · exact True.intro
    · exact ⟨rfl, True.intro⟩

/- A resolution looks up its code once. -/
theorem lookUps_resolve
    {w : Surroundings}
    (policy : Policy)
    {code : String}
    (hCode : Text.isBlankText code = false)
    (s : App) :
    (resolve policy code).lookUps w s = [code] := by
  have hBlank : ¬ Text.isBlankText code = true := by
    rw [hCode]
    exact Bool.false_ne_true
  rw [resolve, if_neg hBlank]
  refine congrArg (code :: ·) (Dialogue.lookUps_eq_nil ?_ _)
  dsimp only
  split
  · exact True.intro
  · exact True.intro
  · exact True.intro
  · exact afterFind_within code _

end Shortener

end UrlShortener

------------------------------------------------------------
-- Draws And Totals
------------------------------------------------------------

namespace UrlShortener

/- Adding to a total leaves the others as they were. -/
theorem Metrics.get_add
    (m : Metrics)
    (metric other : Metric) :
    (m.add metric).get other =
      m.get other + if metric = other then 1 else 0 := by
  cases metric <;> cases other <;> rfl

namespace Dialogue

variable {α : Type} {w : Surroundings}

/- A code is drawn whenever one is asked for. -/
theorem run_draws
    (d : Dialogue α)
    (s : App) :
    (d.run w s).2.draws =
      s.draws + (d.asks w s).count .code := by
  induction d generalizing s with
  | done result => rfl
  | readClock next ih => exact ih _ _
  | draw length next ih =>
      refine (ih _ _).trans ?_
      rw [asks, List.count_cons_self, ← Nat.add_assoc,
        Nat.add_right_comm]
      rfl
  | save limit new next ih => exact ih _ _
  | find limit code next ih => exact ih _ _
  | count limit code next ih => exact ih _ _
  | probe limit next ih => exact ih _ _ _
  | visit code next ih =>
      have hRest := ih (s.visit code).1 (s.visit code).2
      have hSame : (s.visit code).2.draws = s.draws := by
        rw [s.visit_eq code]
      rw [hSame] at hRest
      exact hRest
  | places next ih => exact ih _ _
  | note metric next ih => exact ih _

/- A total grows by one whenever a note of it is asked for. -/
theorem run_metrics
    (metric : Metric)
    (d : Dialogue α)
    (s : App) :
    (d.run w s).2.metrics.get metric =
      s.metrics.get metric +
        (d.asks w s).count (.note metric) := by
  induction d generalizing s with
  | done result => rfl
  | readClock next ih => exact ih _ _
  | draw length next ih => exact ih _ _
  | save limit new next ih => exact ih _ _
  | find limit code next ih => exact ih _ _
  | count limit code next ih => exact ih _ _
  | probe limit next ih => exact ih _ _ _
  | visit code next ih =>
      have hRest := ih (s.visit code).1 (s.visit code).2
      have hSame : (s.visit code).2.metrics = s.metrics := by
        rw [s.visit_eq code]
      rw [hSame] at hRest
      exact hRest
  | places next ih => exact ih _ _
  | note noted next ih =>
      refine (ih _).trans ?_
      rw [asks, List.count_cons, App.note, Metrics.get_add,
        Nat.add_right_comm, Nat.add_assoc]
      simp only [beq_iff_eq, Ask.note.injEq]

end Dialogue

end UrlShortener
