import UrlShortener.Proofs.Text.Cuts
import UrlShortener.Text.Blank

/-
  Trimming. The characters of a kind are dropped at the ends
  of a text, and what stands between them is kept as it is.
  The blanks are one such kind.

  Key definitions include:
    * `Text.IsEnd`
    * `Text.trimWhere`

  Main declarations:
    * `Text.trimWhere_eq_self_iff`
    * `Text.exists_trimWhere`
    * `Text.trimWhere_append`
    * `Text.exists_trim`
    * `Text.trim_append`
    * `Text.trim_eq_self`
-/

------------------------------------------------------------
-- Characters Of A Kind
------------------------------------------------------------

namespace UrlShortener

namespace Text

/- A character that a text begins or ends with. -/
def IsEnd (cs : List Char) (c : Char) : Prop :=
  cs.head? = some c ∨ cs.getLast? = some c

instance (cs : List Char) (c : Char) :
    Decidable (IsEnd cs c) :=
  inferInstanceAs
    (Decidable (cs.head? = some c ∨ cs.getLast? = some c))

/- Drop the characters of a kind at both ends. -/
def trimWhere
    (p : Char → Bool)
    (cs : List Char) : List Char :=
  ((cs.dropWhile p).reverse.dropWhile p).reverse

variable {p : Char → Bool} {cs before after : List Char}

/- Only a text without characters has no ends. -/
theorem exists_isEnd
    (hSome : cs ≠ []) : ∃ c, c ∈ cs ∧ IsEnd cs c := by
  cases cs with
  | nil => exact absurd rfl hSome
  | cons c rest => exact ⟨c, List.mem_cons_self, .inl rfl⟩

theorem IsEnd.mem {c : Char} (hEnd : IsEnd cs c) : c ∈ cs :=
  hEnd.elim List.mem_of_head? List.mem_of_getLast?

/- Around a text, its ends may be those of the others. -/
theorem isEnd_append
    {c : Char}
    (hSome : cs ≠ [])
    (hEnd : IsEnd (before ++ (cs ++ after)) c) :
    c ∈ before.head? ∨ c ∈ after.getLast? ∨ IsEnd cs c := by
  rcases hEnd with hHead | hLast
  · rw [List.head?_append, Option.or_eq_some_iff] at hHead
    rcases hHead with hFirst | ⟨_, hFirst⟩
    · exact .inl hFirst
    · rw [List.head?_append_of_ne_nil _ hSome] at hFirst
      exact .inr (.inr (.inl hFirst))
  · have hTail : cs ++ after ≠ [] :=
      List.append_ne_nil_of_left_ne_nil hSome after
    rw [List.getLast?_append_of_ne_nil _ hTail,
      List.getLast?_append, Option.or_eq_some_iff] at hLast
    rcases hLast with hEnd | ⟨_, hEnd⟩
    · exact .inr (.inl hEnd)
    · exact .inr (.inr (.inr hEnd))

/- A text that was trimmed does not end in what was dropped. -/
theorem not_of_isEnd_trimWhere
    {c : Char}
    (hEnd : IsEnd (trimWhere p cs) c) : p c = false := by
  have hFirst
      {ds : List Char}
      (hHead : (ds.dropWhile p).head? = some c) :
      p c = false := by
    have hNot := List.head?_dropWhile_not p ds
    rw [hHead] at hNot
    exact hNot
  rcases hEnd with hHead | hLast
  · have hStart : trimWhere p cs <+: cs.dropWhile p := by
      rw [← List.reverse_suffix, trimWhere,
        List.reverse_reverse]
      exact List.dropWhile_suffix p
    rcases hStart with ⟨rest, hRest⟩
    have hFront : (cs.dropWhile p).head? = some c := by
      rw [← hRest, List.head?_append, hHead]
      rfl
    exact hFirst hFront
  · rw [trimWhere, List.getLast?_reverse] at hLast
    exact hFirst hLast

/- Just the texts with other ends are kept whole. -/
theorem trimWhere_eq_self_iff :
    trimWhere p cs = cs ↔ ∀ c, IsEnd cs c → p c = false := by
  constructor
  · intro hKept c hEnd
    rw [← hKept] at hEnd
    exact not_of_isEnd_trimWhere hEnd
  · intro hEnds
    have hFront : cs.dropWhile p = cs :=
      dropWhile_eq_self fun c hHead => hEnds c (.inl hHead)
    have hBack : cs.reverse.dropWhile p = cs.reverse := by
      apply dropWhile_eq_self
      intro c hLast
      rw [List.head?_reverse] at hLast
      exact hEnds c (.inr hLast)
    rw [trimWhere, hFront, hBack, List.reverse_reverse]

theorem trimWhere_trimWhere :
    trimWhere p (trimWhere p cs) = trimWhere p cs :=
  trimWhere_eq_self_iff.mpr fun _ => not_of_isEnd_trimWhere

/- A text is what is left of it, with dropped ones around. -/
theorem exists_trimWhere
    (p : Char → Bool)
    (cs : List Char) :
    ∃ before after, cs = before ++ (trimWhere p cs ++ after) ∧
      (∀ c ∈ before, p c = true) ∧
      ∀ c ∈ after, p c = true := by
  refine ⟨cs.takeWhile p,
    ((cs.dropWhile p).reverse.takeWhile p).reverse, ?_, ?_, ?_⟩
  · have hEnd :
        trimWhere p cs
            ++ ((cs.dropWhile p).reverse.takeWhile p).reverse =
          cs.dropWhile p := by
      rw [trimWhere, ← List.reverse_append,
        List.takeWhile_append_dropWhile, List.reverse_reverse]
    rw [hEnd]
    exact List.takeWhile_append_dropWhile.symm
  · exact fun c hMem => List.mem_takeWhile_imp hMem
  · intro c hMem
    exact List.mem_takeWhile_imp (List.mem_reverse.mp hMem)

/- More of what is dropped changes nothing. -/
theorem trimWhere_append
    (hBefore : ∀ c ∈ before, p c = true)
    (hAfter : ∀ c ∈ after, p c = true) :
    trimWhere p (before ++ (cs ++ after)) = trimWhere p cs := by
  rw [trimWhere, trimWhere,
    List.dropWhile_append_of_pos hBefore, List.dropWhile_append]
  cases hFront : cs.dropWhile p with
  | nil =>
      rw [List.isEmpty_nil, if_pos rfl,
        List.dropWhile_eq_nil_iff.mpr hAfter]
  | cons c rest =>
      have hReverse : ∀ d ∈ after.reverse, p d = true :=
        fun d hMem => hAfter d (List.mem_reverse.mp hMem)
      rw [List.isEmpty_cons, if_neg Bool.false_ne_true,
        List.reverse_append,
        List.dropWhile_append_of_pos hReverse]

end Text

end UrlShortener

------------------------------------------------------------
-- Blanks
------------------------------------------------------------

namespace UrlShortener

namespace Text

variable {cs before after : List Char}

theorem trim_eq_trimWhere (cs : List Char) :
    trim cs = trimWhere isBlank cs :=
  rfl

/- A trimmed text has no blanks at its ends. -/
theorem ends_of_trim
    (hTrim : trim cs = cs) :
    (∀ c ∈ cs.head?, isBlank c = false) ∧
      ∀ c ∈ cs.getLast?, isBlank c = false := by
  have hEnds := trimWhere_eq_self_iff.mp hTrim
  exact ⟨fun c hHead => hEnds c (.inl hHead),
    fun c hLast => hEnds c (.inr hLast)⟩

/- A text is what is left of it with blanks at its ends. -/
theorem exists_trim (cs : List Char) :
    ∃ before after, cs = before ++ (trim cs ++ after) ∧
      (∀ c ∈ before, isBlank c = true) ∧
      ∀ c ∈ after, isBlank c = true :=
  exists_trimWhere isBlank cs

/- A text without blanks is trimmed. -/
theorem trim_eq_self
    (hNone : ∀ c ∈ cs, isBlank c = false) : trim cs = cs :=
  trimWhere_eq_self_iff.mpr fun c hEnd => hNone c hEnd.mem

/- Blanks around a text without blanks are dropped. -/
theorem trim_append
    (hBefore : ∀ c ∈ before, isBlank c = true)
    (hNone : ∀ c ∈ cs, isBlank c = false)
    (hAfter : ∀ c ∈ after, isBlank c = true) :
    trim (before ++ (cs ++ after)) = cs := by
  rw [trim_eq_trimWhere, trimWhere_append hBefore hAfter]
  exact trim_eq_self hNone

/- Digits are no blanks. -/
theorem isBlank_of_isDigit
    {c : Char}
    (hDigit : c.isDigit = true) : isBlank c = false := by
  have hRange : 48 ≤ c.toNat ∧ c.toNat ≤ 57 := by
    simpa [Char.isDigit, UInt32.le_iff_toNat_le] using hDigit
  simp only [isBlank, Bool.or_eq_false_iff,
    Bool.and_eq_false_iff, decide_eq_false_iff_not,
    beq_eq_false_iff_ne]
  omega

end Text

end UrlShortener
