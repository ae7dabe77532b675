import UrlShortener.Json.Printer
import UrlShortener.Json.Scan
import UrlShortener.Proofs.Text.Escapes

/-
  Strings that are read back. Whatever characters a text has,
  its quoted form is read as the text, and is skipped as a
  whole: each character is written as bytes that do not close
  the string and that stand for the bytes of the character.

  Key definitions include:
    * `Json.StandsFor`
    * `Json.behindQuote`

  Main declarations:
    * `Json.standsFor_escapeChar`
    * `Json.readText_behindQuote`
    * `Json.skipString_behindQuote`
-/

------------------------------------------------------------
-- Bytes Within A String
------------------------------------------------------------

namespace UrlShortener

namespace Json

/-
  Bytes within a string that stand for bytes of its text.
  They do not close the string, they are read as the bytes
  that they stand for, and they are skipped. Neither takes
  more steps than there are bytes.
-/
structure StandsFor (body text : List UInt8) : Prop where
  spans :
    ∀ rest,
      textSpan false (body ++ rest) =
        body.length + textSpan false rest
  reads :
    ∀ i, ∃ steps next, ∃ places : List (UInt8 × Nat),
      steps ≤ body.length ∧ places.map Prod.fst = text ∧
      ∀ fuel done rest,
        readString (fuel + steps) i done (body ++ rest) =
          readString fuel next (places.reverse ++ done) rest
  skips :
    ∃ steps, steps ≤ body.length ∧
      ∀ fuel rest,
        skipString (fuel + steps) (body ++ rest) =
          skipString fuel rest

namespace StandsFor

theorem nil : StandsFor [] [] where
  spans := fun _ => (Nat.zero_add _).symm
  reads := fun i => ⟨0, i, [], Nat.le_refl 0, rfl,
    fun _ _ _ => rfl⟩
  skips := ⟨0, Nat.le_refl 0, fun _ _ => rfl⟩

variable {body text more others : List UInt8}

theorem append
    (hBody : StandsFor body text)
    (hMore : StandsFor more others) :
    StandsFor (body ++ more) (text ++ others) := by
  constructor
  · intro rest
    rw [List.append_assoc, hBody.spans, hMore.spans,
      List.length_append, Nat.add_assoc]
  · intro i
    rcases hBody.reads i with
      ⟨m, j, places, hSteps, hText, hRead⟩
    rcases hMore.reads j with
      ⟨n, k, later, hLater, hOthers, hGoesOn⟩
    refine ⟨n + m, k, places ++ later, ?_, ?_, ?_⟩
    · rw [List.length_append]
      omega
    · rw [List.map_append, hText, hOthers]
    · intro fuel done rest
      rw [List.append_assoc, ← Nat.add_assoc, hRead, hGoesOn,
        List.reverse_append, List.append_assoc]
  · rcases hBody.skips with ⟨m, hSteps, hSkip⟩
    rcases hMore.skips with ⟨n, hLater, hGoesOn⟩
    refine ⟨n + m, ?_, ?_⟩
    · rw [List.length_append]
      omega
    · intro fuel rest
      rw [List.append_assoc, ← Nat.add_assoc, hSkip, hGoesOn]

/- A byte that is no mark stands for itself. -/
theorem plain
    {b : UInt8}
    (hQuote : b ≠ 0x22)
    (hMark : b ≠ 0x5C)
    (hVisible : ¬ b < 0x20) : StandsFor [b] [b] := by
  have hPlain : (b == 0x5C) = false := beq_false_of_ne hMark
  constructor
  · intro rest
    rw [List.singleton_append, textSpan, if_neg hQuote, hPlain,
      List.length_singleton, Nat.add_comm]
  · intro i
    refine ⟨1, i + 1, [(b, i)], Nat.le_refl 1, rfl, ?_⟩
    intro fuel done rest
    rw [List.singleton_append, readString, if_neg hQuote,
      if_neg hMark, if_neg hVisible]
    rfl
  · refine ⟨1, Nat.le_refl 1, ?_⟩
    intro fuel rest
    rw [List.singleton_append, skipString.eq_def]
    dsimp only
    rw [if_neg hQuote, if_neg hMark, if_neg hVisible]

theorem plains
    {bytes : List UInt8}
    (hPlain :
      ∀ b ∈ bytes, b ≠ 0x22 ∧ b ≠ 0x5C ∧ ¬ b < 0x20) :
    StandsFor bytes bytes := by
  induction bytes with
  | nil => exact nil
  | cons b bytes ih =>
      rcases List.forall_mem_cons.mp hPlain with
        ⟨⟨hQuote, hMark, hVisible⟩, hRest⟩
      exact (plain hQuote hMark hVisible).append (ih hRest)

/- An escape of one letter stands for its byte. -/
theorem letter
    {e b : UInt8}
    (hEscape : plainEscape? e = some b) :
    StandsFor [0x5C, e] [b] := by
  have hLength
      (rest : List UInt8) :
      escapeLength (e :: rest) [b] = 1 := by
    unfold escapeLength
    split
    · rename_i hUnit
      cases hUnit
      cases hEscape
    · rfl
  constructor
  · intro rest
    rw [List.length_cons, List.length_singleton, Nat.add_comm]
    rfl
  · intro i
    refine ⟨1, i + 2, [(b, i)], Nat.le_succ 1, rfl, ?_⟩
    intro fuel done rest
    change readString (fuel + 1) i done (0x5C :: e :: rest) = _
    rw [readString, if_neg (by decide), if_pos rfl, readEscape,
      hEscape]
    dsimp only
    rw [hLength]
    rfl
  · refine ⟨1, Nat.le_succ 1, ?_⟩
    intro fuel rest
    change skipString (fuel + 1) (0x5C :: e :: rest) = _
    rw [skipString, if_neg (by decide), if_pos rfl, hEscape]
    rfl

/- An escape of four digits stands for a control character. -/
theorem unit
    {h l : UInt8}
    {x y : Nat}
    (hHigh : Percent.digit? h = some x)
    (hLow : Percent.digit? l = some y)
    (hControl : x * 16 + y < 0x20) :
    StandsFor [0x5C, 0x75, 0x30, 0x30, h, l]
      (String.utf8EncodeChar (Char.ofNat (x * 16 + y))) := by
  have hNoMark
      {b : UInt8}
      {n : Nat}
      (hDigit : Percent.digit? b = some n) :
      b ≠ 0x22 ∧ (b == 0x5C) = false := by
    constructor
    · rintro rfl
      cases hDigit
    · refine beq_false_of_ne ?_
      rintro rfl
      cases hDigit
  have hZero : Percent.digit? 0x30 = some 0 := rfl
  have hUnit
      (rest : List UInt8) :
      readUnit (0x30 :: 0x30 :: h :: l :: rest) =
        .ok (x * 16 + y, rest) := by
    rw [readUnit, hZero, hHigh, hLow]
    dsimp only
    rw [Nat.zero_mul, Nat.zero_add]
  have hOne :
      (String.utf8EncodeChar
        (Char.ofNat (x * 16 + y))).length = 1 := by
    rw [Utf8.encodeChar_of_ascii]
    · rfl
    · rw [Utf8.toNat_ofNat (.inl (by omega))]
      omega
  have hEscape
      (rest : List UInt8) :
      readEscape (0x75 :: 0x30 :: 0x30 :: h :: l :: rest) =
        .ok (String.utf8EncodeChar (Char.ofNat (x * 16 + y)),
          rest) := by
    rw [readEscape]
    change (readUnit _ >>= _) = _
    rw [hUnit]
    dsimp only [bind, Except.bind]
    rw [if_neg (by omega), if_neg (by omega)]
  constructor
  · intro rest
    have hHighMark := hNoMark hHigh
    have hLowMark := hNoMark hLow
    change textSpan false (h :: l :: rest) + 1 + 1 + 1 + 1 = _
    rw [textSpan, if_neg hHighMark.1, hHighMark.2, textSpan,
      if_neg hLowMark.1, hLowMark.2]
    exact Nat.add_comm _ 6
  · intro i
    refine ⟨1, i + 6, (String.utf8EncodeChar
      (Char.ofNat (x * 16 + y))).map (·, i), ?_, ?_, ?_⟩
    · exact Nat.le_add_left 1 5
    · rw [List.map_map]
      exact List.map_id _
    · intro fuel done rest
      change readString (fuel + 1) i done
        (0x5C :: 0x75 :: 0x30 :: 0x30 :: h :: l :: rest) = _
      rw [readString, if_neg (by decide), if_pos rfl, hEscape]
      dsimp only
      rw [escapeLength, hOne, List.map_reverse]
      rfl
  · refine ⟨1, Nat.le_add_left 1 5, ?_⟩
    intro fuel rest
    change skipString (fuel + 1)
      (0x5C :: 0x75 :: 0x30 :: 0x30 :: h :: l :: rest) = _
    rw [skipString, if_neg (by decide), if_pos rfl, hUnit]
    rfl

end StandsFor

end Json

end UrlShortener

------------------------------------------------------------
-- Characters And Texts
------------------------------------------------------------

namespace UrlShortener

namespace Json

/- The digit of a small number is read as the number. -/
theorem lowerDigit_read :
    ∀ {n : Nat}, n < 16 →
      (Hex.lowerDigit n).toNat < 0x80 ∧
        Percent.digit? (Utf8.byte (Hex.lowerDigit n)) =
          some n := by
  decide

/- No byte of a plain character is a mark. -/
theorem plain_of_visible
    {c : Char}
    (hQuote : c ≠ '\x22')
    (hMark : c ≠ '\\')
    (hVisible : ¬ c.toNat < 0x20) :
    ∀ b ∈ String.utf8EncodeChar c,
      b ≠ 0x22 ∧ b ≠ 0x5C ∧ ¬ b < 0x20 := by
  have hNotQuote : c.toNat ≠ 0x22 :=
    fun hSame => hQuote (Char.toNat_inj.mp hSame)
  have hNotMark : c.toNat ≠ 0x5C :=
    fun hSame => hMark (Char.toNat_inj.mp hSame)
  intro b hMem
  have hByte :
      b.toNat = c.toNat ∨ 0x80 ≤ b.toNat := by
    by_cases hAscii : c.toNat < 0x80
    · rw [Utf8.encodeChar_of_ascii hAscii,
        List.mem_singleton] at hMem
      exact .inl (hMem ▸ Utf8.byte_toNat hAscii)
    · exact .inr (Utf8.not_ascii_of_mem_encodeChar hAscii b hMem)
  have hOther
      {d : UInt8}
      (hValue : b.toNat ≠ d.toNat) : b ≠ d :=
    fun hSame => hValue (congrArg UInt8.toNat hSame)
  refine ⟨hOther ?_, hOther ?_, ?_⟩
  · change b.toNat ≠ 0x22
    omega
  · change b.toNat ≠ 0x5C
    omega
  · rw [UInt8.lt_iff_toNat_lt]
    change ¬ b.toNat < 0x20
    omega

/- A character stands for its own bytes, however it is written. -/
theorem standsFor_escapeChar (c : Char) :
    StandsFor (Utf8.encode (escapeChar c))
      (String.utf8EncodeChar c) := by
  unfold escapeChar
  split
  · rename_i hChar
    subst hChar
    exact .letter (e := 0x22) (b := 0x22) rfl
  split
  · rename_i hChar
    subst hChar
    exact .letter (e := 0x5C) (b := 0x5C) rfl
  split
  · rename_i hChar
    subst hChar
    exact .letter (e := 0x6E) (b := 10) rfl
  split
  · rename_i hChar
    subst hChar
    exact .letter (e := 0x72) (b := 13) rfl
  split
  · rename_i hChar
    subst hChar
    exact .letter (e := 0x74) (b := 9) rfl
  split
  · rename_i hCode
    rw [← Char.ofNat_toNat c, hCode]
    exact .letter (e := 0x62) (b := 8) rfl
  split
  · rename_i hCode
    rw [← Char.ofNat_toNat c, hCode]
    exact .letter (e := 0x66) (b := 12) rfl
  split
  · rename_i hControl
    have hHigh := lowerDigit_read
      (show c.toNat / 16 < 16 by omega)
    have hLow := lowerDigit_read
      (show c.toNat % 16 < 16 by omega)
    have hCode :
        c = Char.ofNat
          (c.toNat / 16 * 16 + c.toNat % 16) := by
      rw [Nat.div_add_mod', Char.ofNat_toNat]
    have hUnit :=
      StandsFor.unit hHigh.2 hLow.2 (by omega)
    rw [← hCode] at hUnit
    rw [Utf8.encode_cons_of_ascii (by decide),
      Utf8.encode_cons_of_ascii (by decide),
      Utf8.encode_cons_of_ascii (by decide),
      Utf8.encode_cons_of_ascii (by decide),
      Utf8.encode_cons_of_ascii hHigh.1,
      Utf8.encode_cons_of_ascii hLow.1]
    exact hUnit
  · rename_i hQuote hMark _ _ _ _ _ hVisible
    have hSelf :
        Utf8.encode [c] = String.utf8EncodeChar c := by
      rw [Utf8.encode_cons]
      exact List.append_nil _
    rw [hSelf]
    exact .plains (plain_of_visible hQuote hMark hVisible)

/- So do all characters of a text. -/
theorem standsFor_escaped (cs : List Char) :
    StandsFor (Utf8.encode (cs.flatMap escapeChar))
      (Utf8.encode cs) := by
  induction cs with
  | nil => exact .nil
  | cons c cs ih =>
      rw [List.flatMap_cons, Utf8.encode_append,
        Utf8.encode_cons]
      exact (standsFor_escapeChar c).append ih

/- The bytes of a quoted text behind its opening quote. -/
def behindQuote (s : String) : List UInt8 :=
  Utf8.encode (s.toList.flatMap escapeChar) ++ [0x22]

variable (s : String) (rest : List UInt8)

/- The closing quote is the first that is not escaped. -/
theorem textSpan_behindQuote :
    textSpan false (behindQuote s ++ rest) + 1 =
      (behindQuote s).length := by
  rw [behindQuote, List.append_assoc,
    (standsFor_escaped s.toList).spans, List.length_append]
  rfl

/- A quoted text is read as the text. -/
theorem readText_behindQuote :
    readText (behindQuote s ++ rest) = .ok (s, rest) := by
  rcases (standsFor_escaped s.toList).reads 0 with
    ⟨steps, next, places, hSteps, hText, hRead⟩
  have hFuel :
      (behindQuote s).length =
        (behindQuote s).length - 1 - steps + 1 + steps := by
    rw [behindQuote, List.length_append,
      List.length_singleton]
    omega
  have hString :
      readString (behindQuote s).length 0 []
          (behindQuote s ++ rest) = .ok (places, rest) := by
    rw [hFuel, behindQuote, List.append_assoc, hRead,
      List.singleton_append, readString, if_pos rfl,
      List.append_nil, List.reverse_reverse]
  unfold readText
  rw [textSpan_behindQuote, hString]
  dsimp only [bind, Except.bind]
  rw [hText, Utf8.decode_encode]
  dsimp only
  rw [String.ofList_toList]

/- It is skipped as a whole. -/
theorem skipString_behindQuote :
    skipString (textSpan false (behindQuote s ++ rest) + 1)
      (behindQuote s ++ rest) = .ok rest := by
  rcases (standsFor_escaped s.toList).skips with
    ⟨steps, hSteps, hSkip⟩
  have hFuel :
      (behindQuote s).length =
        (behindQuote s).length - 1 - steps + 1 + steps := by
    rw [behindQuote, List.length_append,
      List.length_singleton]
    omega
  rw [textSpan_behindQuote, hFuel]
  rw [behindQuote, List.append_assoc, hSkip,
    List.singleton_append, skipString.eq_def]
  exact if_pos rfl

end Json

end UrlShortener
