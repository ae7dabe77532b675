import Mathlib.Logic.Basic

/-
  When computations that may fail go well, and with which
  fault they fail: one after another, and with their faults
  told in other words.

  Main declarations:
    * `bind_eq_ok_iff`
    * `bind_eq_error_iff`
    * `map_eq_ok_iff`
    * `mapError_eq_ok_iff`
    * `mapError_eq_error_iff`
-/

------------------------------------------------------------
-- Results And Faults
------------------------------------------------------------

namespace UrlShortener

section Results

variable {ε ε' α β : Type} {x : Except ε α}
variable {f : α → Except ε β} {g : ε → ε'}

/- What follows a result goes well if both do. -/
theorem bind_eq_ok_iff
    {b : β} :
    (x >>= f) = .ok b ↔ ∃ a, x = .ok a ∧ f a = .ok b := by
  cases x with
  | ok a =>
      constructor
      · exact fun hRest => ⟨a, rfl, hRest⟩
      · rintro ⟨_, hSame, hRest⟩
        cases hSame
        exact hRest
  | error fault => exact iff_of_false nofun nofun

/- It fails with the first of the two that does. -/
theorem bind_eq_error_iff
    {fault : ε} :
    (x >>= f) = .error fault ↔
      x = .error fault ∨ ∃ a, x = .ok a ∧ f a = .error fault := by
  cases x with
  | ok a =>
      constructor
      · exact fun hRest => .inr ⟨a, rfl, hRest⟩
      · rintro (hFirst | ⟨_, hSame, hRest⟩)
        · cases hFirst
        · cases hSame
          exact hRest
  | error first =>
      constructor
      · intro hFirst
        cases hFirst
        exact .inl rfl
      · rintro (hFirst | ⟨_, hSame, _⟩)
        · cases hFirst
          rfl
        · cases hSame

/- What is made of a result makes no other results. -/
theorem map_eq_ok_iff
    {h : α → β}
    {b : β} :
    x.map h = .ok b ↔ ∃ a, x = .ok a ∧ h a = b := by
  cases x with
  | ok a =>
      constructor
      · exact fun hSame => ⟨a, rfl, Except.ok.inj hSame⟩
      · rintro ⟨_, hSame, rfl⟩
        cases hSame
        rfl
  | error fault =>
      refine iff_of_false nofun ?_
      rintro ⟨_, hSame, _⟩
      cases hSame

/- What is made of a fault makes no result of it. -/
theorem mapError_eq_ok_iff
    {a : α} : x.mapError g = .ok a ↔ x = .ok a := by
  cases x with
  | ok found =>
      constructor
      · intro hSame
        cases hSame
        rfl
      · intro hSame
        cases hSame
        rfl
  | error fault => exact iff_of_false nofun nofun

theorem mapError_eq_error_iff
    {other : ε'} :
    x.mapError g = .error other ↔
      ∃ fault, x = .error fault ∧ g fault = other := by
  cases x with
  | ok found =>
      refine iff_of_false nofun ?_
      rintro ⟨_, hSame, _⟩
      cases hSame
  | error fault =>
      constructor
      · exact fun hSame =>
          ⟨fault, rfl, Except.error.inj hSame⟩
      · rintro ⟨_, hSame, rfl⟩
        cases hSame
        rfl

end Results

end UrlShortener
