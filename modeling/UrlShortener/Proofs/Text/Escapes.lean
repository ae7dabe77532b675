import UrlShortener.Proofs.Text.Utf8
import UrlShortener.Text.Percent

/-
  Escapes of ASCII text. A segment spells a text when each
  character of the text stands in it as it is, or as a
  percent sign and two hexadecimal digits. Undoing the
  escapes of a segment gives a text just when the segment
  spells it.

  Key definitions include:
    * `Utf8.IsAscii`
    * `Percent.Spells`

  Main declarations:
    * `Percent.decode?_eq_some_iff`
-/

------------------------------------------------------------
-- Bytes Of ASCII Text
------------------------------------------------------------

namespace UrlShortener

namespace Utf8

/- A text of ASCII characters. -/
def IsAscii (cs : List Char) : Prop :=
  ∀ c ∈ cs, c.toNat < 0x80

/- Of ASCII characters, all can be tried. -/
@[elab_as_elim]
theorem forall_ascii
    {P : Char → Prop}
    (hTried : ∀ n < 0x80, P (Char.ofNat n))
    {c : Char}
    (hAscii : c.toNat < 0x80) : P c := by
  have hChar := hTried c.toNat hAscii
  rwa [Char.ofNat_toNat] at hChar

/- Letters of either case and digits, as ranges. -/
theorem isAlphanum_iff (c : Char) :
    c.isAlphanum = true ↔
      ('A' ≤ c ∧ c ≤ 'Z') ∨ ('a' ≤ c ∧ c ≤ 'z') ∨
        ('0' ≤ c ∧ c ≤ '9') := by
  have hUpper : c.isUpper = true ↔ 'A' ≤ c ∧ c ≤ 'Z' :=
    decide_eq_true_iff
  have hBoth
      {p q : Prop}
      [Decidable p]
      [Decidable q] :
      (decide p && decide q) = true ↔ p ∧ q := by
    rw [Bool.and_eq_true, decide_eq_true_eq, decide_eq_true_eq]
  have hLower : c.isLower = true ↔ 'a' ≤ c ∧ c ≤ 'z' := hBoth
  have hDigit : c.isDigit = true ↔ '0' ≤ c ∧ c ≤ '9' := hBoth
  change ((c.isUpper || c.isLower) || c.isDigit) = true ↔ _
  rw [Bool.or_eq_true, Bool.or_eq_true, hUpper, hLower, hDigit,
    or_assoc]

/- They are all ASCII. -/
theorem ascii_of_isAlphanum
    {c : Char}
    (hPlain : c.isAlphanum = true) : c.toNat < 0x80 := by
  have hLe : ∀ d : Char, c ≤ d → c.toNat ≤ d.toNat :=
    fun _ hOrder => UInt32.le_iff_toNat_le.mp hOrder
  rcases (isAlphanum_iff c).mp hPlain with
    ⟨_, hHigh⟩ | ⟨_, hHigh⟩ | ⟨_, hHigh⟩
  · exact Nat.lt_of_le_of_lt (hLe 'Z' hHigh) (by decide)
  · exact Nat.lt_of_le_of_lt (hLe 'z' hHigh) (by decide)
  · exact Nat.lt_of_le_of_lt (hLe '9' hHigh) (by decide)

theorem ascii_of_isAlpha
    {c : Char}
    (hLetter : c.isAlpha = true) : c.toNat < 0x80 :=
  ascii_of_isAlphanum (Bool.or_eq_true_iff.mpr (.inl hLetter))

theorem ascii_of_isDigit
    {c : Char}
    (hDigit : c.isDigit = true) : c.toNat < 0x80 :=
  ascii_of_isAlphanum (Bool.or_eq_true_iff.mpr (.inr hDigit))

/- The one byte of an ASCII character. -/
def byte (c : Char) : UInt8 := UInt8.ofNat c.toNat

theorem byte_toNat
    {c : Char}
    (hAscii : c.toNat < 0x80) : (byte c).toNat = c.toNat := by
  rw [byte, UInt8.toNat_ofNat_of_lt']
  exact Nat.lt_trans hAscii (by decide)

theorem encodeChar_of_ascii
    {c : Char}
    (hAscii : c.toNat < 0x80) :
    String.utf8EncodeChar c = [byte c] := by
  have hSmall : c.val.toNat ≤ 127 := Nat.le_of_lt_succ hAscii
  rw [String.utf8EncodeChar, if_pos hSmall]
  rfl

/- The bytes of other characters are not ASCII. -/
theorem not_ascii_of_mem_encodeChar
    {c : Char}
    (hOther : ¬ c.toNat < 0x80) :
    ∀ b ∈ String.utf8EncodeChar c, 0x80 ≤ b.toNat := by
  have hLarge : ¬ c.val.toNat ≤ 127 :=
    fun hSmall => hOther (Nat.lt_succ_of_le hSmall)
  have hByte
      {n : Nat}
      (hLow : 0x80 ≤ n)
      (hHigh : n < 256) : 0x80 ≤ (UInt8.ofNat n).toNat := by
    rw [toNat_ofByte hHigh]
    exact hLow
  rw [String.utf8EncodeChar, if_neg hLarge]
  split
  · simp only [List.forall_mem_cons]
    exact ⟨hByte (by omega) (by omega),
      hByte (by omega) (by omega), by simp⟩
  split
  · simp only [List.forall_mem_cons]
    exact ⟨hByte (by omega) (by omega),
      hByte (by omega) (by omega),
      hByte (by omega) (by omega), by simp⟩
  · simp only [List.forall_mem_cons]
    exact ⟨hByte (by omega) (by omega),
      hByte (by omega) (by omega),
      hByte (by omega) (by omega),
      hByte (by omega) (by omega), by simp⟩

theorem encodeChar_of_not_ascii
    {c : Char}
    (hOther : ¬ c.toNat < 0x80) :
    ∃ b bytes, String.utf8EncodeChar c = b :: bytes ∧
      0x80 ≤ b.toNat := by
  have hBytes := not_ascii_of_mem_encodeChar hOther
  rcases encodeChar_eq_cons c with ⟨b, bytes, hCons⟩
  rw [hCons] at hBytes
  exact ⟨b, bytes, hCons, hBytes b List.mem_cons_self⟩

theorem encode_cons_of_ascii
    {c : Char}
    (hAscii : c.toNat < 0x80)
    (cs : List Char) :
    encode (c :: cs) = byte c :: encode cs := by
  rw [encode_cons, encodeChar_of_ascii hAscii]
  rfl

/- A text whose bytes begin with an ASCII one does so too. -/
theorem encode_eq_cons
    {cs : List Char}
    {b : UInt8}
    {bytes : List UInt8}
    (hAscii : b < 0x80)
    (hEncode : encode cs = b :: bytes) :
    ∃ c rest, cs = c :: rest ∧ c.toNat < 0x80 ∧
      byte c = b ∧ encode rest = bytes := by
  cases cs with
  | nil => cases hEncode
  | cons c rest =>
      by_cases hChar : c.toNat < 0x80
      · rw [encode_cons_of_ascii hChar] at hEncode
        injection hEncode with hByte hRest
        exact ⟨c, rest, rfl, hChar, hByte, hRest⟩
      · rcases encodeChar_of_not_ascii hChar with
          ⟨b', bytes', hBytes, hLarge⟩
        rw [encode_cons, hBytes] at hEncode
        injection hEncode with hByte _
        rw [hByte] at hLarge
        exact absurd (UInt8.lt_iff_toNat_lt.mp hAscii)
          (Nat.not_lt.mpr hLarge)

theorem encode_eq_cons_of_ascii
    {cs : List Char}
    {b : UInt8}
    {bytes : List UInt8}
    (hAscii : IsAscii cs)
    (hEncode : encode cs = b :: bytes) :
    ∃ c rest, cs = c :: rest ∧ c.toNat < 0x80 ∧
      IsAscii rest ∧ byte c = b ∧ encode rest = bytes := by
  cases cs with
  | nil => cases hEncode
  | cons c rest =>
      rcases List.forall_mem_cons.mp hAscii with ⟨hChar, hRest⟩
      rw [encode_cons_of_ascii hChar] at hEncode
      injection hEncode with hByte hMore
      exact ⟨c, rest, rfl, hChar, hRest, hByte, hMore⟩

end Utf8

end UrlShortener

------------------------------------------------------------
-- Spellings
------------------------------------------------------------

namespace UrlShortener

namespace Percent

/-
  A segment spells an ASCII text: every character stands for
  itself or is escaped by two digits of either letter case.
-/
inductive Spells : List Char → List Char → Prop where
| nil : Spells [] []
| plain
    {segment cs : List Char}
    (c : Char)
    (hRest : Spells segment cs) :
    Spells (c :: segment) (c :: cs)
| escaped
    {segment cs : List Char}
    {c high low : Char}
    {x y : Nat}
    (hHigh : Hex.value? high = some x)
    (hLow : Hex.value? low = some y)
    (hChar : c.toNat = 16 * x + y)
    (hRest : Spells segment cs) :
    Spells ('%' :: high :: low :: segment) (c :: cs)

/- Only a percent sign begins an escape. -/
theorem unescape_cons_of_ne
    {b : UInt8}
    (hOther : b ≠ 0x25)
    (bytes : List UInt8) :
    unescape (b :: bytes) = b :: unescape bytes := by
  match bytes with
  | [] => rfl
  | [_] => rfl
  | h :: l :: tail =>
      rw [unescape, escaped?, if_neg hOther]

theorem digit?_byte
    {c : Char}
    (hAscii : c.toNat < 0x80) :
    digit? (Utf8.byte c) = Hex.value? c := by
  rw [digit?, Utf8.byte_toNat hAscii, Char.ofNat_toNat]

/- A hexadecimal digit is ASCII and has a value below 16. -/
theorem value?_bounds
    {c : Char}
    {x : Nat}
    (hValue : Hex.value? c = some x) :
    c.toNat < 0x80 ∧ x < 16 := by
  have hLe : ∀ {a b : Char}, a ≤ b → a.toNat ≤ b.toNat :=
    fun hOrder => UInt32.le_iff_toNat_le.mp hOrder
  have hRange :
      ∀ {a b : Char} {base : Nat}, a ≤ c ∧ c ≤ b →
        b.toNat < 0x80 → b.toNat < base + 16 →
          some (c.toNat - base) = some x →
            c.toNat < 0x80 ∧ x < 16 := by
    intro a b base hBetween hAscii hBound hSame
    have hTo := hLe hBetween.2
    cases hSame
    omega
  unfold Hex.value? at hValue
  split at hValue
  · exact hRange ‹_› (by decide) (by decide) hValue
  · split at hValue
    · exact hRange ‹_› (by decide) (by decide) hValue
    · split at hValue
      · exact hRange ‹_› (by decide) (by decide) hValue
      · cases hValue

theorem byte_percent : Utf8.byte '%' = 0x25 := by decide

/- Other ASCII characters are other bytes. -/
theorem byte_inj
    {c d : Char}
    (hFirst : c.toNat < 0x80)
    (hSecond : d.toNat < 0x80)
    (hSame : Utf8.byte c = Utf8.byte d) : c = d := by
  have hNat := congrArg UInt8.toNat hSame
  rw [Utf8.byte_toNat hFirst, Utf8.byte_toNat hSecond] at hNat
  rw [← Char.ofNat_toNat c, hNat, Char.ofNat_toNat]

/- A percent sign escapes a byte or stands for itself. -/
theorem unescape_percent_cases (bytes : List UInt8) :
    (∃ more, unescape (0x25 :: bytes) = 0x25 :: more) ∨
    ∃ h l tail x y,
      bytes = h :: l :: tail ∧ digit? h = some x ∧
        digit? l = some y ∧
        unescape (0x25 :: bytes) =
          UInt8.ofNat (16 * x + y) :: unescape tail := by
  match bytes with
  | [] => exact Or.inl ⟨[], rfl⟩
  | [b] => exact Or.inl ⟨[b], rfl⟩
  | h :: l :: tail =>
      cases hHigh : digit? h with
      | none =>
          refine Or.inl ⟨unescape (h :: l :: tail), ?_⟩
          simp [unescape, escaped?, hHigh]
      | some x =>
          cases hLow : digit? l with
          | none =>
              refine Or.inl ⟨unescape (h :: l :: tail), ?_⟩
              simp [unescape, escaped?, hHigh, hLow]
          | some y =>
              refine Or.inr ⟨h, l, tail, x, y, rfl, hHigh, hLow,
                ?_⟩
              simp [unescape, escaped?, hHigh, hLow]

/- Undoing the escapes of a spelling gives the text. -/
theorem unescape_of_spells
    {segment cs : List Char}
    (hSpells : Spells segment cs)
    (hAscii : Utf8.IsAscii cs)
    (hPlain : '%' ∉ cs) :
    unescape (Utf8.encode segment) = Utf8.encode cs := by
  induction hSpells with
  | nil => rfl
  | plain c hRest ih =>
      rcases List.forall_mem_cons.mp hAscii with ⟨hChar, hMore⟩
      rw [List.mem_cons, not_or] at hPlain
      have hOther : Utf8.byte c ≠ 0x25 := by
        rw [← byte_percent]
        intro hSame
        exact hPlain.1
          (byte_inj hChar (by decide) hSame).symm
      rw [Utf8.encode_cons_of_ascii hChar,
        Utf8.encode_cons_of_ascii hChar,
        unescape_cons_of_ne hOther, ih hMore hPlain.2]
  | @escaped segment cs c high low x y hHigh hLow hChar hRest
      ih =>
      rcases List.forall_mem_cons.mp hAscii with ⟨hSmall, hMore⟩
      have hDigits :
          escaped? 0x25 (Utf8.byte high) (Utf8.byte low) =
            some (Utf8.byte c) := by
        rw [escaped?, if_pos rfl,
          digit?_byte (value?_bounds hHigh).1,
          digit?_byte (value?_bounds hLow).1, hHigh, hLow,
          Utf8.byte, hChar]
        rfl
      rw [Utf8.encode_cons_of_ascii (c := '%') (by decide),
        Utf8.encode_cons_of_ascii (value?_bounds hHigh).1,
        Utf8.encode_cons_of_ascii (value?_bounds hLow).1,
        Utf8.encode_cons_of_ascii hSmall, byte_percent,
        unescape, hDigits]
      dsimp only
      rw [ih hMore (List.not_mem_of_not_mem_cons hPlain)]

/- A byte that is read as a digit is that of the digit. -/
theorem digit?_eq_some
    {b : UInt8}
    {x : Nat}
    (hDigit : digit? b = some x) : b < 0x80 := by
  have hValid : b.toNat.isValidChar :=
    Or.inl (Nat.lt_trans b.toNat_lt (by decide))
  have hSmall := (value?_bounds hDigit).1
  rw [Utf8.toNat_ofNat hValid] at hSmall
  exact UInt8.lt_iff_toNat_lt.mpr hSmall

/- Nothing else gives the text. -/
theorem spells_of_unescape :
    ∀ (segment cs : List Char),
      Utf8.IsAscii cs → '%' ∉ cs →
        unescape (Utf8.encode segment) = Utf8.encode cs →
          Spells segment cs
| [], cs, hAscii, _, hSame => by
    cases cs with
    | nil => exact .nil
    | cons c cs =>
        rw [Utf8.encode_cons_of_ascii
          (hAscii c List.mem_cons_self)] at hSame
        cases hSame
| c :: segment, cs, hAscii, hPlain, hSame => by
    by_cases hChar : c.toNat < 0x80
    · rw [Utf8.encode_cons_of_ascii hChar] at hSame
      by_cases hPercent : c = '%'
      · subst hPercent
        rw [byte_percent] at hSame
        rcases unescape_percent_cases (Utf8.encode segment) with
          ⟨more, hItself⟩ | ⟨h, l, tail, x, y, hBytes, hHigh,
            hLow, hEscape⟩
        · rw [hItself] at hSame
          rcases Utf8.encode_eq_cons_of_ascii hAscii
              hSame.symm with
            ⟨d, rest, rfl, hSmall, _, hByte, _⟩
          rw [← byte_percent] at hByte
          have hFirst : d = '%' :=
            byte_inj hSmall (by decide) hByte
          rw [hFirst] at hPlain
          exact absurd List.mem_cons_self hPlain
        · rw [hEscape] at hSame
          rcases Utf8.encode_eq_cons_of_ascii hAscii
              hSame.symm with
            ⟨d, rest, rfl, hSmall, hMore, hByte, hRest⟩
          rcases Utf8.encode_eq_cons (digit?_eq_some hHigh)
              hBytes with
            ⟨high, after, rfl, hHighAscii, rfl, hAfter⟩
          rcases Utf8.encode_eq_cons (digit?_eq_some hLow)
              hAfter with
            ⟨low, left, rfl, hLowAscii, rfl, rfl⟩
          rw [digit?_byte hHighAscii] at hHigh
          rw [digit?_byte hLowAscii] at hLow
          have hNat : d.toNat = 16 * x + y := by
            have hHighBound := (value?_bounds hHigh).2
            have hLowBound := (value?_bounds hLow).2
            rw [← Utf8.byte_toNat hSmall, hByte,
              UInt8.toNat_ofNat_of_lt']
            change 16 * x + y < 256
            omega
          exact .escaped hHigh hLow hNat
            (spells_of_unescape left rest hMore
              (List.not_mem_of_not_mem_cons hPlain)
              hRest.symm)
      · have hOther : Utf8.byte c ≠ 0x25 := by
          rw [← byte_percent]
          intro hByte
          exact hPercent (byte_inj hChar (by decide) hByte)
        rw [unescape_cons_of_ne hOther] at hSame
        rcases Utf8.encode_eq_cons_of_ascii hAscii
            hSame.symm with
          ⟨d, rest, rfl, hSmall, hMore, hByte, hRest⟩
        obtain rfl : d = c := byte_inj hSmall hChar hByte
        exact .plain d
          (spells_of_unescape segment rest hMore
            (List.not_mem_of_not_mem_cons hPlain) hRest.symm)
    · rcases Utf8.encodeChar_of_not_ascii hChar with
        ⟨b, bytes, hBytes, hLarge⟩
      have hOther : b ≠ 0x25 := by
        rintro rfl
        exact absurd hLarge (by decide)
      rw [Utf8.encode_cons, hBytes, List.cons_append,
        unescape_cons_of_ne hOther] at hSame
      rcases Utf8.encode_eq_cons_of_ascii hAscii
          hSame.symm with
        ⟨d, rest, rfl, hSmall, _, hByte, _⟩
      rw [← hByte, Utf8.byte_toNat hSmall] at hLarge
      exact absurd hSmall (Nat.not_lt.mpr hLarge)
termination_by segment => segment.length

/- A segment is read as a text just when it spells it. -/
theorem decode?_eq_some_iff
    {segment cs : List Char}
    (hAscii : Utf8.IsAscii cs)
    (hPlain : '%' ∉ cs) :
    decode? segment = some cs ↔ Spells segment cs := by
  rw [decode?, Utf8.decode?_eq_some_iff]
  constructor
  · exact spells_of_unescape segment cs hAscii hPlain
  · intro hSpells
    exact unescape_of_spells hSpells hAscii hPlain

end Percent

end UrlShortener
