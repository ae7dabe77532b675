import UrlShortener.Proofs.Text.Cuts
import UrlShortener.Text.Percent
import UrlShortener.Text.Split

/-
  Printable texts: texts of the ASCII characters from the
  space to the tilde. Escapes and numbers are printable, and
  what is put together of printable parts is so too.

  Key definitions include:
    * `Text.IsPrintable`
    * `Text.Printable`

  Main declarations:
    * `Percent.escape_printable`
    * `Text.printable_toDigits`
    * `Text.Printable.flatMap`
-/

------------------------------------------------------------
-- Printable Texts
------------------------------------------------------------

namespace UrlShortener

namespace Text

/- An ASCII character that is no control character. -/
def IsPrintable (c : Char) : Prop :=
  0x20 ≤ c.toNat ∧ c.toNat < 0x7F

instance : DecidablePred IsPrintable :=
  fun c => inferInstanceAs
    (Decidable (0x20 ≤ c.toNat ∧ c.toNat < 0x7F))

/- A text of such characters. -/
def Printable (cs : List Char) : Prop :=
  ∀ c ∈ cs, IsPrintable c

instance : DecidablePred Printable :=
  fun cs => List.decidableBAll IsPrintable cs

@[simp] theorem printable_nil : Printable [] := nofun

@[simp] theorem printable_cons
    {c : Char}
    {cs : List Char} :
    Printable (c :: cs) ↔ IsPrintable c ∧ Printable cs :=
  List.forall_mem_cons

@[simp] theorem printable_append
    {cs ds : List Char} :
    Printable (cs ++ ds) ↔ Printable cs ∧ Printable ds :=
  List.forall_mem_append

namespace Printable

variable {cs ds : List Char}

theorem subset
    (hPrintable : Printable cs)
    (hPart : ds ⊆ cs) : Printable ds :=
  fun c hChar => hPrintable c (hPart hChar)

theorem flatMap
    {α : Type}
    {parts : List α}
    {f : α → List Char}
    (hParts : ∀ part ∈ parts, Printable (f part)) :
    Printable (parts.flatMap f) := by
  intro c hChar
  rcases List.mem_flatMap.mp hChar with ⟨part, hPart, hMem⟩
  exact hParts part hPart c hMem

end Printable

end Text

end UrlShortener

------------------------------------------------------------
-- Numbers And Escapes
------------------------------------------------------------

namespace UrlShortener

namespace Text

/- Whatever stands for a digit can be printed. -/
theorem isPrintable_digitChar (n : Nat) :
    IsPrintable n.digitChar := by
  by_cases hSmall : n < 16
  · have hAll : ∀ m < 16, IsPrintable m.digitChar := by decide
    exact hAll n hSmall
  · rw [Nat.digitChar_eq_star.mpr (Nat.le_of_not_lt hSmall)]
    decide

/- What holds of the digits holds of a number. -/
theorem forall_mem_toDigits
    {P : Char → Prop}
    {base : Nat}
    (hBase : 1 < base)
    (hDigit : ∀ m < base, P m.digitChar)
    (n : Nat) : ∀ c ∈ Nat.toDigits base n, P c := by
  induction n using Nat.strongRecOn with
  | ind n ih =>
      rw [Nat.toDigits_eq_if hBase]
      split
      · rename_i hSmall
        rw [List.forall_mem_singleton]
        exact hDigit n hSmall
      · rename_i hLarge
        have hPos : 0 < n :=
          Nat.lt_of_lt_of_le (Nat.lt_trans Nat.one_pos hBase)
            (Nat.le_of_not_lt hLarge)
        have hLast := Nat.mod_lt n (Nat.lt_trans Nat.one_pos hBase)
        rw [List.forall_mem_append, List.forall_mem_singleton]
        exact ⟨ih _ (Nat.div_lt_self hPos hBase),
          hDigit _ hLast⟩

theorem printable_toDigits
    {base : Nat}
    (hBase : 1 < base)
    (n : Nat) : Printable (Nat.toDigits base n) :=
  forall_mem_toDigits hBase (fun m _ => isPrintable_digitChar m) n

theorem printable_toString (n : Nat) :
    Printable (toString n).toList := by
  rw [Nat.toString_eq_repr, Nat.toList_repr]
  exact printable_toDigits (by decide) n

end Text

namespace Percent

open Text (IsPrintable Printable printable_cons printable_nil)

theorem escapeByte_printable (b : UInt8) :
    Printable (escapeByte b) := by
  have hDigit : ∀ n < 16, IsPrintable (Hex.upperDigit n) := by
    decide
  have hSize := b.toNat_lt
  rw [escapeByte, printable_cons, printable_cons,
    printable_cons]
  exact ⟨by decide, hDigit _ (by omega), hDigit _ (by omega),
    printable_nil⟩

/-
  An escaped text can be printed if every ASCII character
  that is left as it is can.
-/
theorem escape_printable
    {inSet : Char → Bool}
    (hSet :
      ∀ c : Char, c.toNat < 0x80 → inSet c = false →
        IsPrintable c)
    (cs : List Char) : Printable (escape inSet cs) := by
  refine Printable.flatMap ?_
  intro c hChar
  split
  · exact Printable.flatMap fun b _ => escapeByte_printable b
  · rename_i hKept
    rw [Bool.or_eq_true, decide_eq_true_eq, not_or,
      Nat.not_le, Bool.not_eq_true] at hKept
    rw [printable_cons]
    exact ⟨hSet c hKept.1 hKept.2, printable_nil⟩

end Percent

end UrlShortener
