import Mathlib.Data.List.Basic
import UrlShortener.Proofs.Text.Escapes

/-
  What undoing the escapes makes of a text. It shortens the
  text just when the text holds an escape, and it does not
  matter whether other characters were escaped before.

  Key definitions include:
    * `Percent.twoDigits`
    * `Percent.holdsEscape`
    * `Percent.KeepsEscapes`
    * `Percent.Escaped`

  Main declarations:
    * `Percent.escape_induction`
    * `Percent.unescape_eq_self_iff`
    * `Percent.KeepsEscapes.escaped_escape`
    * `Percent.KeepsEscapes.unescape_escape`
    * `Percent.KeepsEscapes.decode?_escape_eq_some_iff`
-/

------------------------------------------------------------
-- Lengths Of Encoded Texts
------------------------------------------------------------

namespace UrlShortener

namespace Utf8

variable {cs ds : List Char}

/- A part of a text has fewer bytes, unless it is all of it. -/
theorem length_encode_lt
    (hPart : cs.Sublist ds)
    (hOther : cs ≠ ds) :
    (encode cs).length < (encode ds).length := by
  induction hPart with
  | slnil => exact absurd rfl hOther
  | @cons cs ds c hPart ih =>
      rcases encodeChar_eq_cons c with ⟨b, bytes, hBytes⟩
      have hLe : (encode cs).length ≤ (encode ds).length := by
        by_cases hSame : cs = ds
        · exact Nat.le_of_eq (hSame ▸ rfl)
        · exact Nat.le_of_lt (ih hSame)
      rw [encode_cons, hBytes, List.length_append,
        List.length_cons]
      omega
  | @cons_cons cs ds c hPart ih =>
      have hRest := ih (fun hSame => hOther (hSame ▸ rfl))
      rw [encode_cons, encode_cons, List.length_append,
        List.length_append]
      omega

theorem length_encode_le
    (hPart : cs.Sublist ds) :
    (encode cs).length ≤ (encode ds).length := by
  by_cases hSame : cs = ds
  · exact Nat.le_of_eq (hSame ▸ rfl)
  · exact Nat.le_of_lt (length_encode_lt hPart hSame)

end Utf8

end UrlShortener

------------------------------------------------------------
-- Escapes In A Text
------------------------------------------------------------

namespace UrlShortener

namespace Percent

/- Whether a text begins with two hexadecimal digits. -/
def twoDigits : List Char → Bool
| high :: low :: _ =>
    (Hex.value? high).isSome && (Hex.value? low).isSome
| _ => false

/- Whether there is a percent sign in front of two digits. -/
def holdsEscape : List Char → Bool
| [] => false
| c :: cs => (c == '%' && twoDigits cs) || holdsEscape cs

theorem twoDigits_eq_true {cs : List Char} :
    twoDigits cs = true ↔
      ∃ high low x y rest,
        cs = high :: low :: rest ∧
          Hex.value? high = some x ∧
          Hex.value? low = some y := by
  constructor
  · intro hDigits
    unfold twoDigits at hDigits
    split at hDigits
    · rename_i high low rest
      rw [Bool.and_eq_true, Option.isSome_iff_exists,
        Option.isSome_iff_exists] at hDigits
      rcases hDigits with ⟨⟨x, hHigh⟩, y, hLow⟩
      exact ⟨high, low, x, y, rest, rfl, hHigh, hLow⟩
    · cases hDigits
  · rintro ⟨high, low, x, y, rest, rfl, hHigh, hLow⟩
    rw [twoDigits, hHigh, hLow]
    rfl

/-
  A text is read by its escapes: from the front, the next
  character is none, or begins one, or is a lone sign.
-/
@[elab_as_elim]
theorem escape_induction
    {P : List Char → Prop}
    (cs : List Char)
    (nil : P [])
    (plain : ∀ c cs, c ≠ '%' → P cs → P (c :: cs))
    (escaped : ∀ high low x y cs,
      Hex.value? high = some x → Hex.value? low = some y →
        P cs → P ('%' :: high :: low :: cs))
    (lone : ∀ cs, twoDigits cs = false → P cs →
      P ('%' :: cs)) : P cs :=
  match cs with
  | [] => nil
  | c :: cs => by
      have hRest :=
        escape_induction cs nil plain escaped lone
      by_cases hSign : c = '%'
      · rw [hSign]
        cases hDigits : twoDigits cs with
        | false => exact lone cs hDigits hRest
        | true =>
            rcases twoDigits_eq_true.mp hDigits with
              ⟨high, low, x, y, rest, rfl, hHigh, hLow⟩
            exact escaped high low x y rest hHigh hLow
              (escape_induction rest nil plain escaped lone)
      · exact plain c cs hSign hRest
termination_by cs.length

/- Bytes that are not percent signs are left as they are. -/
theorem unescape_append
    {bytes : List UInt8}
    (hOther : 0x25 ∉ bytes)
    (rest : List UInt8) :
    unescape (bytes ++ rest) = bytes ++ unescape rest := by
  induction bytes with
  | nil => rfl
  | cons b bytes ih =>
      rw [List.mem_cons, not_or] at hOther
      rw [List.cons_append, unescape_cons_of_ne
        (Ne.symm hOther.1), ih hOther.2]
      rfl

/- So are the bytes of all other characters. -/
theorem unescape_encode_cons
    {c : Char}
    (hOther : c ≠ '%')
    (cs : List Char) :
    unescape (Utf8.encode (c :: cs)) =
      String.utf8EncodeChar c ++ unescape (Utf8.encode cs) := by
  have hBytes : 0x25 ∉ String.utf8EncodeChar c := by
    by_cases hAscii : c.toNat < 0x80
    · rw [Utf8.encodeChar_of_ascii hAscii, List.mem_singleton,
        ← byte_percent]
      intro hSame
      exact hOther (byte_inj (by decide) hAscii hSame).symm
    · intro hMem
      have hLarge :=
        Utf8.not_ascii_of_mem_encodeChar hAscii 0x25 hMem
      exact absurd hLarge (by decide)
  rw [Utf8.encode_cons, unescape_append hBytes]

/- Two digits behind a percent sign are the byte they write. -/
theorem unescape_encode_digits
    {high low : Char}
    {x y : Nat}
    (hHigh : Hex.value? high = some x)
    (hLow : Hex.value? low = some y)
    (cs : List Char) :
    unescape (Utf8.encode ('%' :: high :: low :: cs)) =
      UInt8.ofNat (16 * x + y) ::
        unescape (Utf8.encode cs) := by
  have hHighAscii := (value?_bounds hHigh).1
  have hLowAscii := (value?_bounds hLow).1
  rw [Utf8.encode_cons_of_ascii (by decide),
    Utf8.encode_cons_of_ascii hHighAscii,
    Utf8.encode_cons_of_ascii hLowAscii, byte_percent,
    unescape, escaped?, if_pos rfl, digit?_byte hHighAscii,
    digit?_byte hLowAscii, hHigh, hLow]
  rfl

theorem length_encode_digits
    {high low : Char}
    {x y : Nat}
    (hHigh : Hex.value? high = some x)
    (hLow : Hex.value? low = some y)
    (cs : List Char) :
    (Utf8.encode ('%' :: high :: low :: cs)).length =
      (Utf8.encode cs).length + 3 := by
  rw [Utf8.encode_cons_of_ascii (by decide),
    Utf8.encode_cons_of_ascii (value?_bounds hHigh).1,
    Utf8.encode_cons_of_ascii (value?_bounds hLow).1]
  rfl

/- Any other percent sign stands for itself. -/
theorem unescape_encode_lone
    {cs : List Char}
    (hLone : twoDigits cs = false) :
    unescape (Utf8.encode ('%' :: cs)) =
      0x25 :: unescape (Utf8.encode cs) := by
  rw [Utf8.encode_cons_of_ascii (by decide), byte_percent]
  match hBytes : Utf8.encode cs with
  | [] => rfl
  | [_] => rfl
  | h :: l :: tail =>
      rw [unescape]
      cases hDigits : escaped? 0x25 h l with
      | none => rfl
      | some b =>
          rw [escaped?, if_pos rfl] at hDigits
          simp only [Option.bind_eq_bind,
            Option.bind_eq_some_iff] at hDigits
          rcases hDigits with ⟨x, hHigh, y, hLow, _⟩
          rcases Utf8.encode_eq_cons (digit?_eq_some hHigh)
              hBytes with
            ⟨high, after, rfl, hHighAscii, rfl, hAfter⟩
          rcases Utf8.encode_eq_cons (digit?_eq_some hLow)
              hAfter with
            ⟨low, rest, rfl, hLowAscii, rfl, _⟩
          rw [digit?_byte hHighAscii] at hHigh
          rw [digit?_byte hLowAscii] at hLow
          have hTwo := twoDigits_eq_true.mpr
            ⟨high, low, x, y, rest, rfl, hHigh, hLow⟩
          rw [hLone] at hTwo
          cases hTwo

/- No text gets longer. -/
theorem length_unescape_le (cs : List Char) :
    (unescape (Utf8.encode cs)).length ≤
      (Utf8.encode cs).length := by
  induction cs using escape_induction with
  | nil => exact Nat.le_refl 0
  | plain c cs hOther ih =>
      rw [unescape_encode_cons hOther, Utf8.encode_cons,
        List.length_append, List.length_append]
      omega
  | escaped high low x y cs hHigh hLow ih =>
      rw [unescape_encode_digits hHigh hLow, List.length_cons,
        length_encode_digits hHigh hLow]
      omega
  | lone cs hLone ih =>
      rw [unescape_encode_lone hLone,
        Utf8.encode_cons_of_ascii (by decide),
        List.length_cons, List.length_cons]
      omega

/- A text is left as it is just when it holds no escape. -/
theorem unescape_eq_self_iff {cs : List Char} :
    unescape (Utf8.encode cs) = Utf8.encode cs ↔
      holdsEscape cs = false := by
  induction cs using escape_induction with
  | nil => exact ⟨fun _ => rfl, fun _ => rfl⟩
  | plain c cs hOther ih =>
      have hSign : (c == '%') = false :=
        beq_eq_false_iff_ne.mpr hOther
      rw [unescape_encode_cons hOther, Utf8.encode_cons,
        List.append_cancel_left_eq, ih, holdsEscape, hSign]
      rfl
  | escaped high low x y cs hHigh hLow ih =>
      have hDigits := twoDigits_eq_true.mpr
        ⟨high, low, x, y, cs, rfl, hHigh, hLow⟩
      rw [holdsEscape, hDigits]
      -- The escape is three bytes and stands for one.
      refine iff_of_false (fun hSame => ?_) (by simp)
      have hLength := congrArg List.length hSame
      have hRest := length_unescape_le cs
      rw [unescape_encode_digits hHigh hLow, List.length_cons,
        length_encode_digits hHigh hLow] at hLength
      omega
  | lone cs hLone ih =>
      rw [unescape_encode_lone hLone,
        Utf8.encode_cons_of_ascii (by decide), byte_percent,
        List.cons_inj_right, ih, holdsEscape, hLone]
      rfl

end Percent

end UrlShortener

------------------------------------------------------------
-- Escapes That Are Undone
------------------------------------------------------------

namespace UrlShortener

namespace Percent

variable {inSet : Char → Bool}

/- The characters that escapes are made of. -/
def IsEscapeChar (c : Char) : Prop :=
  c = '%' ∨ (Hex.value? c).isSome = true

instance : DecidablePred IsEscapeChar :=
  fun c => inferInstanceAs
    (Decidable (c = '%' ∨ (Hex.value? c).isSome = true))

theorem IsEscapeChar.ascii
    {c : Char}
    (hPart : IsEscapeChar c) : c.toNat < 0x80 := by
  rcases hPart with rfl | hDigit
  · decide
  · rcases Option.isSome_iff_exists.mp hDigit with ⟨x, hX⟩
    exact (value?_bounds hX).1

/- A set without the characters that escapes are made of. -/
def KeepsEscapes (inSet : Char → Bool) : Prop :=
  ∀ c, IsEscapeChar c → inSet c = false

/- It is enough to try the ASCII characters. -/
theorem keepsEscapes_of_tried
    (hTried :
      ∀ n < 0x80, IsEscapeChar (Char.ofNat n) →
        inSet (Char.ofNat n) = false) :
    KeepsEscapes inSet :=
  fun _ hPart => Utf8.forall_ascii hTried hPart.ascii hPart

/- A text with nothing left to escape. -/
def Escaped (inSet : Char → Bool) (cs : List Char) : Prop :=
  ∀ c ∈ cs, c.toNat < 0x80 ∧ inSet c = false

theorem escape_cons (c : Char) (cs : List Char) :
    escape inSet (c :: cs) =
      (if 0x80 ≤ c.toNat || inSet c then
        (String.utf8EncodeChar c).flatMap escapeByte
      else [c]) ++ escape inSet cs :=
  List.flatMap_cons

/- Something is left of whatever is escaped. -/
theorem escape_ne_nil
    (inSet : Char → Bool)
    {cs : List Char}
    (hSome : cs ≠ []) : escape inSet cs ≠ [] := by
  rcases List.exists_cons_of_ne_nil hSome with ⟨c, cs, rfl⟩
  rw [escape_cons]
  refine List.append_ne_nil_of_left_ne_nil ?_ _
  split
  · rcases Utf8.encodeChar_eq_cons c with ⟨b, bytes, hBytes⟩
    rw [hBytes, List.flatMap_cons]
    nofun
  · nofun

/- A text with nothing left to escape is left as it is. -/
theorem escape_eq_self
    {cs : List Char}
    (hEscaped : Escaped inSet cs) : escape inSet cs = cs := by
  induction cs with
  | nil => rfl
  | cons c cs ih =>
      rcases List.forall_mem_cons.mp hEscaped with
        ⟨⟨hAscii, hChar⟩, hRest⟩
      rw [escape_cons, hChar, Bool.or_false,
        decide_eq_false (Nat.not_le.mpr hAscii), ih hRest]
      rfl

/- What stands in an escaped text is an escape or was kept. -/
theorem mem_escape
    {c : Char}
    {cs : List Char}
    (hMem : c ∈ escape inSet cs) :
    IsEscapeChar c ∨
      c ∈ cs ∧ c.toNat < 0x80 ∧ inSet c = false := by
  have hDigit :
      ∀ n < 16, IsEscapeChar (Hex.upperDigit n) := by decide
  rcases List.mem_flatMap.mp hMem with ⟨d, hSource, hPart⟩
  split at hPart
  · rcases List.mem_flatMap.mp hPart with ⟨b, _, hByte⟩
    have hSize := b.toNat_lt
    simp only [escapeByte, List.mem_cons, List.not_mem_nil,
      or_false] at hByte
    rcases hByte with rfl | rfl | rfl
    · exact .inl (.inl rfl)
    · exact .inl (hDigit _ (by omega))
    · exact .inl (hDigit _ (by omega))
  · rename_i hPlain
    obtain rfl := List.mem_singleton.mp hPart
    rw [Bool.or_eq_true, decide_eq_true_eq, not_or,
      Nat.not_le, Bool.not_eq_true] at hPlain
    exact .inr ⟨hSource, hPlain⟩

/- Every escaped text has nothing left to escape. -/
theorem KeepsEscapes.escaped_escape
    (hKeeps : KeepsEscapes inSet)
    (cs : List Char) : Escaped inSet (escape inSet cs) := by
  intro c hMem
  rcases mem_escape hMem with hPart | ⟨_, hKept⟩
  · exact ⟨hPart.ascii, hKeeps c hPart⟩
  · exact hKept

/- The characters of escapes are left as they are. -/
theorem KeepsEscapes.escape_cons
    (hKeeps : KeepsEscapes inSet)
    {c : Char}
    (hPart : IsEscapeChar c)
    (cs : List Char) :
    escape inSet (c :: cs) = c :: escape inSet cs := by
  rw [Percent.escape_cons, hKeeps c hPart, Bool.or_false,
    decide_eq_false (Nat.not_le.mpr hPart.ascii)]
  rfl

/- The bytes of escapes are those that were escaped. -/
theorem unescape_escapeBytes
    (bytes : List UInt8)
    (cs : List Char) :
    unescape (Utf8.encode (bytes.flatMap escapeByte ++ cs)) =
      bytes ++ unescape (Utf8.encode cs) := by
  have hDigit :
      ∀ n < 16, Hex.value? (Hex.upperDigit n) = some n := by
    decide
  induction bytes with
  | nil => rfl
  | cons b bytes ih =>
      have hSize := b.toNat_lt
      have hByte :
          16 * (b.toNat / 16) + b.toNat % 16 = b.toNat :=
        Nat.div_add_mod b.toNat 16
      rw [List.flatMap_cons, List.append_assoc]
      change unescape (Utf8.encode ('%' :: _ :: _ ::
        (bytes.flatMap escapeByte ++ cs))) = _
      rw [unescape_encode_digits (hDigit _ (by omega))
        (hDigit _ (by omega)), hByte, UInt8.ofNat_toNat, ih]
      rfl

/- No digit becomes the first character by an escape. -/
theorem KeepsEscapes.escape_cons_cases
    (hKeeps : KeepsEscapes inSet)
    (c : Char)
    (cs : List Char) :
    escape inSet (c :: cs) = c :: escape inSet cs ∨
    Hex.value? c = none ∧
      ∃ more, escape inSet (c :: cs) = '%' :: more := by
  cases hDigit : Hex.value? c with
  | some x =>
      exact .inl (hKeeps.escape_cons (.inr (hDigit ▸ rfl)) cs)
  | none =>
      rw [Percent.escape_cons]
      split
      · rcases Utf8.encodeChar_eq_cons c with ⟨b, bytes, hBytes⟩
        rw [hBytes]
        exact .inr ⟨rfl, _, rfl⟩
      · exact .inl rfl

/- What is escaped begins with digits just when it did. -/
theorem KeepsEscapes.twoDigits_escape
    (hKeeps : KeepsEscapes inSet)
    (cs : List Char) :
    twoDigits (escape inSet cs) = twoDigits cs := by
  have hSign : Hex.value? '%' = none := rfl
  match cs with
  | [] => rfl
  | [c] =>
      rcases hKeeps.escape_cons_cases c [] with
        hSelf | ⟨_, more, hMore⟩
      · rw [hSelf]
        rfl
      · rw [hMore]
        cases more <;> simp [twoDigits, hSign]
  | c :: d :: rest =>
      rcases hKeeps.escape_cons_cases c (d :: rest) with
        hSelf | ⟨hFirst, more, hMore⟩
      · rcases hKeeps.escape_cons_cases d rest with
          hNext | ⟨hSecond, more, hMore⟩
        · rw [hSelf, hNext]
          rfl
        · rw [hSelf, hMore]
          simp [twoDigits, hSign, hSecond]
      · rw [hMore]
        cases more <;> simp [twoDigits, hSign, hFirst]

/- Undoing escapes undoes those that were added as well. -/
theorem KeepsEscapes.unescape_escape
    (hKeeps : KeepsEscapes inSet)
    (cs : List Char) :
    unescape (Utf8.encode (escape inSet cs)) =
      unescape (Utf8.encode cs) := by
  induction cs using escape_induction with
  | nil => rfl
  | plain c cs hOther ih =>
      rw [Percent.escape_cons, unescape_encode_cons hOther,
        ← ih]
      split
      · exact unescape_escapeBytes _ _
      · exact unescape_encode_cons hOther _
  | escaped high low x y cs hHigh hLow ih =>
      rw [hKeeps.escape_cons (.inl rfl),
        hKeeps.escape_cons (.inr (hHigh ▸ rfl)),
        hKeeps.escape_cons (.inr (hLow ▸ rfl)),
        unescape_encode_digits hHigh hLow,
        unescape_encode_digits hHigh hLow, ih]
  | lone cs hLone ih =>
      rw [hKeeps.escape_cons (.inl rfl),
        unescape_encode_lone hLone,
        unescape_encode_lone
          ((hKeeps.twoDigits_escape cs).trans hLone), ih]

/- An escaped text is read as the text without escapes. -/
theorem KeepsEscapes.decode?_escape_eq_some_iff
    (hKeeps : KeepsEscapes inSet)
    {cs out : List Char} :
    decode? (escape inSet cs) = some out ↔
      unescape (Utf8.encode cs) = Utf8.encode out := by
  rw [decode?, Utf8.decode?_eq_some_iff,
    hKeeps.unescape_escape]

end Percent

end UrlShortener
