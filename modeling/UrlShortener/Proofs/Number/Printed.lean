import UrlShortener.Number.Signed

/-
  Numerals, and numbers that are read back as they were
  printed. A text of digits is read as the number that it
  stands for if that has 64 bits, with or without room for a
  sign, and the text of a number is such a text. Without
  room for a sign, no other texts are read, but that a plus
  may stand in front.

  Key definitions include:
    * `IsNumeral`
    * `Unsigned.IsWord`

  Main declarations:
    * `isNumeral_toString`
    * `Unsigned.read_eq_ok_iff`
    * `Unsigned.read_of_numeral`
    * `Signed.read?_of_numeral`
    * `Unsigned.read_toString`
    * `Signed.read?_toString`
-/

------------------------------------------------------------
-- Digits
------------------------------------------------------------

namespace UrlShortener

/- Decimal digits, zeros in front included, of a number. -/
structure IsNumeral (cs : List Char) (n : Nat) : Prop where
  not_empty : cs ≠ []
  digits : ∀ c ∈ cs, c.isDigit = true
  value : Nat.ofDigitChars 10 cs 0 = n

/- The text of a number is a numeral. -/
theorem isNumeral_toString (n : Nat) :
    IsNumeral (toString n).toList n := by
  rw [Nat.toString_eq_repr, Nat.toList_repr]
  exact {
    not_empty := Nat.toDigits_ne_nil
    digits := fun _ hMem =>
      Nat.isDigit_of_mem_toDigits (by decide) (by decide) hMem
    value := Nat.ofDigitChars_toDigits (by decide) (by decide) }

/- The text of a number has no zeros in front. -/
theorem toDigits_eq_cons
    {n : Nat}
    (hPos : 0 < n) :
    ∃ c rest, Nat.toDigits 10 n = c :: rest ∧ c ≠ '0' := by
  have hDigit : ∀ d < 10, 0 < d → d.digitChar ≠ '0' := by
    decide
  induction n using Nat.strongRecOn with
  | ind n ih =>
      rw [Nat.toDigits_eq_if (by decide)]
      split
      · rename_i hSmall
        exact ⟨_, [], rfl, hDigit n hSmall hPos⟩
      · rename_i hLarge
        have hTens : 0 < n / 10 := by omega
        rcases ih _ (Nat.div_lt_self hPos (by decide)) hTens with
          ⟨c, rest, hFront, hNotZero⟩
        rw [hFront, List.cons_append]
        exact ⟨c, _, rfl, hNotZero⟩

/- A numeral begins with a digit, so it has no sign. -/
theorem IsNumeral.exists_cons
    {cs : List Char}
    {n : Nat}
    (hNumeral : IsNumeral cs n) :
    ∃ c rest, cs = c :: rest ∧ c ≠ '+' ∧ c ≠ '-' := by
  rcases List.exists_cons_of_ne_nil hNumeral.not_empty with
    ⟨c, rest, rfl⟩
  have hDigit := hNumeral.digits c List.mem_cons_self
  refine ⟨c, rest, rfl, ?_, ?_⟩
  · rintro rfl
    cases hDigit
  · rintro rfl
    cases hDigit

/- Further digits never make a number smaller. -/
theorem le_ofDigitChars
    (cs : List Char)
    (n : Nat) : n ≤ Nat.ofDigitChars 10 cs n := by
  induction cs generalizing n with
  | nil => exact Nat.le_refl n
  | cons c cs ih =>
      rw [Nat.ofDigitChars_cons]
      exact Nat.le_trans (by omega) (ih _)

namespace Unsigned

/- Digits are read as the number that they stand for. -/
theorem digits_eq_ok
    {cs : List Char}
    {n : Nat}
    (hDigits : ∀ c ∈ cs, c.isDigit = true)
    (hFits : Nat.ofDigitChars 10 cs n ≤ maxWord) :
    digits n cs = .ok (Nat.ofDigitChars 10 cs n) := by
  induction cs generalizing n with
  | nil => rfl
  | cons c cs ih =>
      have hAll := List.forall_mem_cons.mp hDigits
      rw [Nat.ofDigitChars_cons] at hFits ⊢
      have hNext : 10 * n + (c.toNat - 48) ≤ maxWord :=
        Nat.le_trans (le_ofDigitChars cs _) hFits
      rw [digits, if_pos hAll.1]
      dsimp only
      rw [if_pos hNext]
      exact ih hAll.2 hFits

theorem digits_of_numeral
    {cs : List Char}
    {n : Nat}
    (hNumeral : IsNumeral cs n)
    (hFits : n ≤ maxWord) : digits 0 cs = .ok n := by
  have hRead :=
    digits_eq_ok hNumeral.digits (n := 0)
      (by rw [hNumeral.value]; exact hFits)
  rwa [hNumeral.value] at hRead

/- Only digits are read, and no number that is too large. -/
theorem of_digits_eq_ok
    {cs : List Char}
    {n m : Nat}
    (hStart : n ≤ maxWord)
    (hRead : digits n cs = .ok m) :
    (∀ c ∈ cs, c.isDigit = true) ∧
      Nat.ofDigitChars 10 cs n = m ∧ m ≤ maxWord := by
  induction cs generalizing n with
  | nil =>
      cases hRead
      exact ⟨nofun, rfl, hStart⟩
  | cons c cs ih =>
      rw [digits] at hRead
      dsimp only at hRead
      split at hRead
      · rename_i hDigit
        split at hRead
        · rename_i hNext
          rcases ih hNext hRead with ⟨hDigits, hValue, hFits⟩
          rw [Nat.ofDigitChars_cons]
          exact ⟨List.forall_mem_cons.mpr ⟨hDigit, hDigits⟩,
            hValue, hFits⟩
        · cases hRead
      · cases hRead

end Unsigned

end UrlShortener

------------------------------------------------------------
-- Numerals That Are Read
------------------------------------------------------------

namespace UrlShortener

variable {cs : List Char} {n : Nat}

theorem Unsigned.read_of_numeral
    (hNumeral : IsNumeral cs n)
    (hFits : n ≤ maxWord) : read cs = .ok n := by
  have hRead := digits_of_numeral hNumeral hFits
  rcases hNumeral.exists_cons with ⟨c, rest, rfl, hPlus, _⟩
  unfold read
  split
  · rename_i hNil
    cases hNil
  · rename_i hSign
    cases hSign
    exact absurd rfl hPlus
  · rename_i hSign
    cases hSign
    exact absurd rfl hPlus
  · exact hRead

/- The texts of numbers of 64 bits, with or without a plus. -/
inductive Unsigned.IsWord : List Char → Nat → Prop where
| plain
    {cs : List Char}
    {n : Nat}
    (hNumeral : IsNumeral cs n)
    (hFits : n ≤ maxWord) : IsWord cs n
| signed
    {cs : List Char}
    {n : Nat}
    (hNumeral : IsNumeral cs n)
    (hFits : n ≤ maxWord) : IsWord ('+' :: cs) n

theorem Unsigned.numeral_of_digits
    (hSome : cs ≠ [])
    (hRead : digits 0 cs = .ok n) :
    IsNumeral cs n ∧ n ≤ maxWord := by
  rcases of_digits_eq_ok (Nat.zero_le _) hRead with
    ⟨hDigits, hValue, hFits⟩
  exact ⟨⟨hSome, hDigits, hValue⟩, hFits⟩

/- Just these texts are read as numbers. -/
theorem Unsigned.read_eq_ok_iff :
    read cs = .ok n ↔ IsWord cs n := by
  constructor
  · intro hRead
    unfold read at hRead
    split at hRead
    · cases hRead
    · cases hRead
    · rename_i rest hSome
      have hWord :=
        numeral_of_digits (fun hNil => hSome (by rw [hNil])) hRead
      exact .signed hWord.1 hWord.2
    · rename_i hSome _ _
      have hWord := numeral_of_digits hSome hRead
      exact .plain hWord.1 hWord.2
  · intro hWord
    cases hWord with
    | plain hNumeral hFits => exact read_of_numeral hNumeral hFits
    | signed hNumeral hFits =>
        rcases hNumeral.exists_cons with ⟨c, rest, rfl, _⟩
        exact digits_of_numeral hNumeral hFits

theorem Signed.read?_of_numeral
    (hNumeral : IsNumeral cs n)
    (hFits : n ≤ maxNumber) : read? cs = some (n : Int) := by
  have hWord : n ≤ Unsigned.maxWord :=
    Nat.le_trans hFits (by decide)
  have hRead := Unsigned.digits_of_numeral hNumeral hWord
  rcases hNumeral.exists_cons with
    ⟨c, rest, rfl, hPlus, hMinus⟩
  have hMagnitude : magnitude? (c :: rest) = some n := by
    rw [magnitude?, hRead]
    · rfl
    · nofun
  unfold read?
  split
  · rename_i hSign
    cases hSign
    exact absurd rfl hMinus
  · rename_i hSign
    cases hSign
    exact absurd rfl hPlus
  · rw [hMagnitude]
    exact if_pos hFits

end UrlShortener

------------------------------------------------------------
-- Printed Numbers
------------------------------------------------------------

namespace UrlShortener

variable {n : Nat}

theorem Unsigned.read_toString
    (hFits : n ≤ maxWord) :
    read (toString n).toList = .ok n :=
  read_of_numeral (isNumeral_toString n) hFits

theorem Signed.read?_toString
    (hFits : n ≤ maxNumber) :
    read? (toString n).toList = some (n : Int) :=
  read?_of_numeral (isNumeral_toString n) hFits

end UrlShortener
