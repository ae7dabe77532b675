import Mathlib.Data.List.Basic
import Mathlib.Data.List.TakeWhile
import UrlShortener.Text.Split

/-
  Cuts of texts. A text is cut where the part in front of
  the mark ends, and the parts between marks make up the
  text again.

  Main declarations:
    * `Text.cutAtFirst?_append`
    * `Text.cutAtLast?_append`
    * `Text.after?_eq_some_iff`
    * `Text.cutAt?_append`
    * `Text.splitWhere_eq_singleton_iff`
    * `Text.join_split`
-/

------------------------------------------------------------
-- Cuts
------------------------------------------------------------

namespace UrlShortener

namespace Text

variable {mark : Char}

/- A text is taken up to the first character that stops it. -/
theorem takeWhile_stop
    {p : Char → Bool}
    {before : List Char}
    {c : Char}
    (hBefore : ∀ d ∈ before, p d = true)
    (hStop : p c = false)
    (after : List Char) :
    (before ++ c :: after).takeWhile p = before := by
  rw [List.takeWhile_append_of_pos hBefore,
    List.takeWhile_cons_of_neg (Bool.eq_false_iff.mp hStop),
    List.append_nil]

theorem dropWhile_stop
    {p : Char → Bool}
    {before : List Char}
    {c : Char}
    (hBefore : ∀ d ∈ before, p d = true)
    (hStop : p c = false)
    (after : List Char) :
    (before ++ c :: after).dropWhile p = c :: after := by
  rw [List.dropWhile_append_of_pos hBefore,
    List.dropWhile_cons_of_neg (Bool.eq_false_iff.mp hStop)]

/- Nothing is dropped if the first character stays. -/
theorem dropWhile_eq_self
    {α : Type}
    {p : α → Bool}
    {cs : List α}
    (hHead : ∀ c ∈ cs.head?, p c = false) :
    cs.dropWhile p = cs := by
  cases cs with
  | nil => rfl
  | cons c cs =>
      exact List.dropWhile_cons_of_neg
        (Bool.eq_false_iff.mp (hHead c rfl))

/- If some character stops a text, there is a first one. -/
theorem exists_stop
    {p : Char → Bool}
    {cs : List Char}
    {c : Char}
    (hMem : c ∈ cs)
    (hStop : p c = false) :
    ∃ before d after, cs = before ++ d :: after ∧
      (∀ e ∈ before, p e = true) ∧ p d = false := by
  induction cs with
  | nil => cases hMem
  | cons d cs ih =>
      by_cases hFirst : p d = true
      · have hRest : c ∈ cs := by
          rcases List.mem_cons.mp hMem with rfl | hRest
          · rw [hStop] at hFirst
            cases hFirst
          · exact hRest
        rcases ih hRest with ⟨before, e, after, rfl, hAll, hEnd⟩
        exact ⟨d :: before, e, after, rfl,
          List.forall_mem_cons.mpr ⟨hFirst, hAll⟩, hEnd⟩
      · exact ⟨[], d, cs, rfl, by simp,
          Bool.eq_false_iff.mpr hFirst⟩

theorem bne_of_not_mem
    {before : List Char}
    (hBefore : mark ∉ before) :
    ∀ c ∈ before, (c != mark) = true :=
  fun _ hMem =>
    bne_iff_ne.mpr (ne_of_mem_of_not_mem hMem hBefore)

/- A text without a mark is taken up to the next mark. -/
theorem takeWhile_append
    {before : List Char}
    (hBefore : mark ∉ before)
    (after : List Char) :
    (before ++ mark :: after).takeWhile (· != mark) =
      before :=
  takeWhile_stop (bne_of_not_mem hBefore) (by simp) after

/- The first mark is found where the text before it ends. -/
theorem cutAtFirst?_append
    {before : List Char}
    (hBefore : mark ∉ before)
    (after : List Char) :
    cutAtFirst? mark (before ++ mark :: after) =
      some (before, after) := by
  have hRest :
      (before ++ mark :: after).dropWhile (· != mark) =
        mark :: after :=
    dropWhile_stop (bne_of_not_mem hBefore) (by simp) after
  unfold cutAtFirst?
  rw [hRest, takeWhile_append hBefore]

theorem cutAtFirst?_of_not_mem
    {cs : List Char}
    (hNone : mark ∉ cs) : cutAtFirst? mark cs = none := by
  have hRest : cs.dropWhile (· != mark) = [] := by
    rw [List.dropWhile_eq_nil_iff]
    exact bne_of_not_mem hNone
  unfold cutAtFirst?
  rw [hRest]

/- The last mark is found where the text after it begins. -/
theorem cutAtLast?_append
    (before : List Char)
    {after : List Char}
    (hAfter : mark ∉ after) :
    cutAtLast? mark (before ++ mark :: after) =
      some (before, after) := by
  have hReverse :
      (before ++ mark :: after).reverse =
        after.reverse ++ mark :: before.reverse := by
    rw [List.reverse_append, List.reverse_cons,
      List.append_assoc]
    rfl
  unfold cutAtLast?
  rw [hReverse,
    cutAtFirst?_append (mt List.mem_reverse.mp hAfter)]
  simp only [Option.map_some, List.reverse_reverse]

theorem cutAtLast?_of_not_mem
    {cs : List Char}
    (hNone : mark ∉ cs) : cutAtLast? mark cs = none := by
  unfold cutAtLast?
  rw [cutAtFirst?_of_not_mem (mt List.mem_reverse.mp hNone),
    Option.map_none]

/- What follows a part is what the text has behind it. -/
theorem after?_eq_some_iff
    {part cs rest : List Char} :
    after? part cs = some rest ↔ cs = part ++ rest := by
  induction part generalizing cs with
  | nil =>
      cases cs with
      | nil => simp [after?]
      | cons c cs => simp [after?]
  | cons p part ih =>
      cases cs with
      | nil => simp [after?]
      | cons c cs =>
          rw [after?, List.cons_append, List.cons.injEq,
            eq_comm (a := c)]
          by_cases hSame : p = c
          · rw [if_pos hSame, ih]
            exact (and_iff_right hSame).symm
          · rw [if_neg hSame]
            exact iff_of_false nofun (fun h => hSame h.1)

/- A part is found behind a text without its first mark. -/
theorem cutAt?_append
    {before : List Char}
    (hBefore : mark ∉ before)
    (part after : List Char) :
    cutAt? (mark :: part) (before ++ mark :: (part ++ after)) =
      some (before, after) := by
  have hAfter : after? part (part ++ after) = some after :=
    after?_eq_some_iff.mpr rfl
  induction before with
  | nil =>
      rw [List.nil_append, cutAt?, after?, if_pos rfl, hAfter]
  | cons c before ih =>
      rw [List.mem_cons, not_or] at hBefore
      rw [List.cons_append, cutAt?, after?, if_neg hBefore.1,
        ih hBefore.2]
      rfl

end Text

end UrlShortener

------------------------------------------------------------
-- Parts
------------------------------------------------------------

namespace UrlShortener

namespace Text

theorem splitWhere_ne_nil
    (p : Char → Bool)
    (cs : List Char) : splitWhere p cs ≠ [] := by
  cases cs with
  | nil => nofun
  | cons c cs =>
      rw [splitWhere]
      split
      · nofun
      · split
        · nofun
        · nofun

/- No part has a mark. -/
theorem forall_mem_splitWhere
    (p : Char → Bool)
    (cs : List Char) :
    ∀ part ∈ splitWhere p cs, ∀ c ∈ part, p c = false := by
  induction cs with
  | nil => simp [splitWhere]
  | cons c cs ih =>
      rw [splitWhere]
      split
      · rename_i hNil
        exact absurd hNil (splitWhere_ne_nil p cs)
      · rename_i first others hRest
        rw [hRest, List.forall_mem_cons] at ih
        split
        · rw [List.forall_mem_cons, List.forall_mem_cons]
          exact ⟨List.forall_mem_nil _, ih⟩
        · rename_i hPlain
          rw [List.forall_mem_cons, List.forall_mem_cons]
          exact ⟨⟨Bool.eq_false_iff.mpr hPlain, ih.1⟩, ih.2⟩

/- Every character of a part is one of the text. -/
theorem subset_of_mem_splitWhere
    {p : Char → Bool}
    {cs part : List Char}
    (hPart : part ∈ splitWhere p cs) : part ⊆ cs := by
  induction cs generalizing part with
  | nil =>
      rw [splitWhere, List.mem_singleton] at hPart
      exact hPart ▸ List.Subset.refl _
  | cons c cs ih =>
      rw [splitWhere] at hPart
      split at hPart
      · rename_i hNil
        exact absurd hNil (splitWhere_ne_nil p cs)
      · rename_i first others hRest
        rw [hRest] at ih
        split at hPart
        · rcases List.mem_cons.mp hPart with rfl | hOther
          · exact List.nil_subset _
          · exact List.subset_cons_of_subset c (ih hOther)
        · rcases List.mem_cons.mp hPart with rfl | hOther
          · exact List.cons_subset_cons c
              (ih List.mem_cons_self)
          · exact List.subset_cons_of_subset c
              (ih (List.mem_cons_of_mem _ hOther))

/- Parts without marks are found between marks. -/
theorem splitWhere_append
    {p : Char → Bool}
    {part : List Char}
    {mark : Char}
    (hPart : ∀ c ∈ part, p c = false)
    (hMark : p mark = true)
    (rest : List Char) :
    splitWhere p (part ++ mark :: rest) =
      part :: splitWhere p rest := by
  induction part with
  | nil =>
      rw [List.nil_append, splitWhere]
      split
      · rename_i hNil
        exact absurd hNil (splitWhere_ne_nil p rest)
      · rename_i first others hRest
        rw [if_pos hMark, hRest]
  | cons c part ih =>
      rcases List.forall_mem_cons.mp hPart with ⟨hChar, hMore⟩
      rw [List.cons_append, splitWhere, ih hMore]
      exact if_neg (Bool.eq_false_iff.mp hChar)

/- A text is its own single part just when it has no mark. -/
theorem splitWhere_eq_singleton_iff
    {p : Char → Bool}
    {cs part : List Char} :
    splitWhere p cs = [part] ↔
      (∀ c ∈ cs, p c = false) ∧ cs = part := by
  induction cs generalizing part with
  | nil => simp [splitWhere]
  | cons c cs ih =>
      rw [splitWhere]
      split
      · rename_i hNil
        exact absurd hNil (splitWhere_ne_nil p cs)
      · rename_i first others hRest
        rw [hRest] at ih
        by_cases hMark : p c = true
        · rw [if_pos hMark]
          constructor
          · nofun
          · rintro ⟨hNone, _⟩
            rw [hNone c List.mem_cons_self] at hMark
            cases hMark
        · rw [if_neg hMark]
          constructor
          · rintro hSame
            cases hSame
            have hOne := ih.mp rfl
            exact ⟨List.forall_mem_cons.mpr
              ⟨Bool.eq_false_iff.mpr hMark, hOne.1⟩,
              congrArg _ hOne.2⟩
          · rintro ⟨hNone, rfl⟩
            have hOne := ih.mpr
              ⟨(List.forall_mem_cons.mp hNone).2, rfl⟩
            cases hOne
            rfl

/- A text is its parts with the mark between them. -/
theorem join_split
    (mark : Char)
    (cs : List Char) : join [mark] (split mark cs) = cs := by
  unfold split
  induction cs with
  | nil => rfl
  | cons c cs ih =>
      rw [splitWhere]
      split
      · rename_i hNil
        rw [hNil] at ih
        rw [← ih]
        rfl
      · rename_i first others hParts
        rw [hParts] at ih
        split
        · rename_i hMark
          rw [← ih, eq_of_beq hMark]
          rfl
        · rw [← ih]
          cases others <;> rfl

theorem join_cons_cons
    (mark part next : List Char)
    (rest : List (List Char)) :
    join mark (part :: next :: rest) =
      part ++ (mark ++ join mark (next :: rest)) := by
  simp [join]

/- Parts without the mark are the parts of their text. -/
theorem split_join
    {mark : Char}
    {parts : List (List Char)}
    (hSome : parts ≠ [])
    (hParts : ∀ part ∈ parts, mark ∉ part) :
    split mark (join [mark] parts) = parts := by
  have hNone
      {part : List Char}
      (hPart : mark ∉ part) :
      ∀ c ∈ part, (c == mark) = false := by
    intro c hMem
    rw [beq_eq_false_iff_ne]
    rintro rfl
    exact hPart hMem
  unfold split
  match parts with
  | [] => exact absurd rfl hSome
  | [part] =>
      have hOne := hNone (hParts part List.mem_cons_self)
      rw [splitWhere_eq_singleton_iff]
      exact ⟨by simpa [join] using hOne, by simp [join]⟩
  | part :: next :: rest =>
      rcases List.forall_mem_cons.mp hParts with
        ⟨hFirst, hOthers⟩
      have hRest := split_join (by simp) hOthers
      rw [join_cons_cons, List.singleton_append,
        splitWhere_append (hNone hFirst) (beq_self_eq_true mark)]
      exact congrArg _ hRest

/- What holds of the parts and the mark holds of the text. -/
theorem forall_mem_join
    {P : Char → Prop}
    {mark : List Char}
    {parts : List (List Char)}
    (hMark : ∀ c ∈ mark, P c)
    (hParts : ∀ part ∈ parts, ∀ c ∈ part, P c) :
    ∀ c ∈ join mark parts, P c := by
  match parts with
  | [] => exact List.forall_mem_nil P
  | [part] =>
      have hOne := hParts part List.mem_cons_self
      simpa [join] using hOne
  | part :: next :: rest =>
      rcases List.forall_mem_cons.mp hParts with
        ⟨hFirst, hOthers⟩
      rw [join_cons_cons, List.forall_mem_append,
        List.forall_mem_append]
      exact ⟨hFirst, hMark, forall_mem_join hMark hOthers⟩

end Text

end UrlShortener
