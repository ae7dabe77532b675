import UrlShortener.Text.Utf8

/-
  UTF-8 that is read back. The bytes of a character are read
  as that character, however long they are, and no other
  bytes are, so bytes are read as a text just when they are
  its own.

  Main declarations:
    * `Utf8.first?_encodeChar`
    * `Utf8.first?_eq_some`
    * `Utf8.decode?_eq_some_iff`
    * `Utf8.text?_eq_some_iff`
-/

------------------------------------------------------------
-- Payloads
------------------------------------------------------------

namespace UrlShortener

namespace Utf8

/- The character of a value has that value. -/
theorem toNat_ofNat
    {n : Nat}
    (hValid : n.isValidChar) : (Char.ofNat n).toNat = n := by
  rw [Char.ofNat, dif_pos hValid]
  rfl

/- A number below 256 is that of its byte. -/
theorem toNat_ofByte
    {n : Nat}
    (hByte : n < 256) : (UInt8.ofNat n).toNat = n :=
  UInt8.toNat_ofNat_of_lt' hByte

theorem eq_ofByte
    {b : UInt8}
    {n : Nat}
    (hByte : b.toNat = n) : b = UInt8.ofNat n := by
  rw [← hByte, UInt8.ofNat_toNat]

/- Six bits are what a continuation byte carries. -/
theorem continuation?_eq_some_iff
    {b : UInt8}
    {n : Nat} :
    continuation? b = some n ↔
      n < 64 ∧ b = UInt8.ofNat (n + 128) := by
  have hLow : (0x80 : UInt8).toNat = 128 := rfl
  have hHigh : (0xBF : UInt8).toNat = 191 := rfl
  unfold continuation?
  simp only [UInt8.le_iff_toNat_le, hLow, hHigh]
  constructor
  · intro hRead
    split at hRead
    · injection hRead with hNumber
      exact ⟨by omega, eq_ofByte (by omega)⟩
    · cases hRead
  · rintro ⟨hSix, rfl⟩
    have hByte := toNat_ofByte (n := n + 128) (by omega)
    rw [hByte, if_pos (by omega), Nat.add_sub_cancel]

/- A code point stands for the character of that value. -/
theorem scalar?_eq_some_iff
    {least n : Nat}
    {c : Char} :
    scalar? least n = some c ↔ least ≤ n ∧ c.toNat = n := by
  unfold scalar?
  constructor
  · intro hScalar
    split at hScalar
    · cases hScalar
    · rename_i hBounds
      have hValid : n.isValidChar := by
        unfold Nat.isValidChar
        omega
      cases hScalar
      exact ⟨by omega, toNat_ofNat hValid⟩
  · rintro ⟨hLeast, rfl⟩
    have hValid :
        c.toNat < 0xD800 ∨
          (0xDFFF < c.toNat ∧ c.toNat < 0x110000) := c.valid
    rw [if_neg (by omega), Char.ofNat_toNat]

end Utf8

end UrlShortener

------------------------------------------------------------
-- Characters
------------------------------------------------------------

namespace UrlShortener

namespace Utf8

/- The bytes of a character are read as the character. -/
theorem first?_encodeChar
    (c : Char)
    (rest : List UInt8) :
    first? (String.utf8EncodeChar c ++ rest) =
      some (c, (String.utf8EncodeChar c).length) := by
  have hValid :
      c.toNat < 0xD800 ∨
        (0xDFFF < c.toNat ∧ c.toNat < 0x110000) := c.valid
  have hScalar
      {least n : Nat}
      (hLeast : least ≤ c.toNat)
      (hValue : n = c.toNat) : scalar? least n = some c := by
    rw [hValue]
    exact scalar?_eq_some_iff.mpr ⟨hLeast, rfl⟩
  have hMore
      {n : Nat}
      (hSix : n < 64) :
      continuation? (UInt8.ofNat (n + 128)) = some n :=
    continuation?_eq_some_iff.mpr ⟨hSix, rfl⟩
  have hNat : c.val.toNat = c.toNat := rfl
  unfold String.utf8EncodeChar
  simp only [hNat]
  -- The four lengths are told apart by the first byte.
  split
  · have hByte := toNat_ofByte (n := c.toNat) (by omega)
    simp only [List.cons_append, first?,
      UInt8.lt_iff_toNat_lt, hByte]
    rw [if_pos (by simp; omega), Char.ofNat_toNat]
    rfl
  split
  · have hByte :=
      toNat_ofByte (n := c.toNat / 64 % 32 + 192) (by omega)
    simp only [List.cons_append, first?,
      UInt8.lt_iff_toNat_lt, UInt8.le_iff_toNat_le, hByte]
    rw [if_neg (by simp), if_pos (by simp; omega),
      hMore (by omega), Option.bind_eq_bind, Option.bind_some,
      hScalar (by omega) (by omega)]
    rfl
  split
  · have hByte :=
      toNat_ofByte (n := c.toNat / 4096 % 16 + 224) (by omega)
    simp only [List.cons_append, first?,
      UInt8.lt_iff_toNat_lt, UInt8.le_iff_toNat_le, hByte]
    rw [if_neg (by simp), if_neg (by simp),
      if_pos (by simp; omega), hMore (by omega),
      Option.bind_eq_bind, Option.bind_some,
      hMore (by omega), Option.bind_eq_bind, Option.bind_some,
      hScalar (by omega) (by omega)]
    rfl
  · have hByte :=
      toNat_ofByte (n := c.toNat / 262144 % 8 + 240) (by omega)
    simp only [List.cons_append, first?,
      UInt8.lt_iff_toNat_lt, UInt8.le_iff_toNat_le, hByte]
    rw [if_neg (by simp), if_neg (by simp), if_neg (by simp),
      if_pos (by simp; omega), hMore (by omega),
      Option.bind_eq_bind, Option.bind_some, hMore (by omega),
      Option.bind_eq_bind, Option.bind_some, hMore (by omega),
      Option.bind_some, hScalar (by omega) (by omega)]
    rfl

/- Only its own bytes are read as a character. -/
theorem first?_eq_some
    {bytes : List UInt8}
    {c : Char}
    {n : Nat}
    (hFirst : first? bytes = some (c, n)) :
    n = (String.utf8EncodeChar c).length ∧
      bytes = String.utf8EncodeChar c ++ bytes.drop n := by
  have hNat : c.val.toNat = c.toNat := rfl
  unfold String.utf8EncodeChar
  simp only [hNat]
  unfold first? at hFirst
  split at hFirst
  · cases hFirst
  rename_i b rest
  simp only [UInt8.lt_iff_toNat_lt, UInt8.le_iff_toNat_le,
    UInt8.reduceToNat, Option.bind_eq_bind] at hFirst
  split at hFirst
  · simp only [Option.some.injEq, Prod.mk.injEq] at hFirst
    rcases hFirst with ⟨rfl, rfl⟩
    have hChar := toNat_ofNat (n := b.toNat) (.inl (by omega))
    rw [hChar, if_pos (by omega), UInt8.ofNat_toNat]
    exact ⟨rfl, rfl⟩
  split at hFirst
  · split at hFirst
    · simp only [Option.bind_eq_some_iff, Option.some.injEq,
        Prod.mk.injEq, continuation?_eq_some_iff,
        scalar?_eq_some_iff] at hFirst
      rcases hFirst with
        ⟨x, ⟨hX, rfl⟩, d, ⟨_, hValue⟩, rfl, rfl⟩
      have hFirst := eq_ofByte
        (by omega : b.toNat = d.toNat / 64 % 32 + 192)
      have hSecond : d.toNat % 64 = x := by omega
      rw [if_neg (by omega), if_pos (by omega), hFirst,
        hSecond]
      exact ⟨rfl, rfl⟩
    · cases hFirst
  split at hFirst
  · split at hFirst
    · simp only [Option.bind_eq_some_iff, Option.some.injEq,
        Prod.mk.injEq, continuation?_eq_some_iff,
        scalar?_eq_some_iff] at hFirst
      rcases hFirst with
        ⟨x, ⟨hX, rfl⟩, y, ⟨hY, rfl⟩, d, ⟨_, hValue⟩, rfl, rfl⟩
      have hFirst := eq_ofByte
        (by omega : b.toNat = d.toNat / 4096 % 16 + 224)
      have hSecond : d.toNat / 64 % 64 = x := by omega
      have hThird : d.toNat % 64 = y := by omega
      rw [if_neg (by omega), if_neg (by omega),
        if_pos (by omega), hFirst, hSecond, hThird]
      exact ⟨rfl, rfl⟩
    · cases hFirst
  split at hFirst
  · split at hFirst
    · simp only [Option.bind_eq_some_iff, Option.some.injEq,
        Prod.mk.injEq, continuation?_eq_some_iff,
        scalar?_eq_some_iff] at hFirst
      rcases hFirst with
        ⟨x, ⟨hX, rfl⟩, y, ⟨hY, rfl⟩, z, ⟨hZ, rfl⟩, d,
          ⟨_, hValue⟩, rfl, rfl⟩
      have hFirst := eq_ofByte
        (by omega : b.toNat = d.toNat / 262144 % 8 + 240)
      have hSecond : d.toNat / 4096 % 64 = x := by omega
      have hThird : d.toNat / 64 % 64 = y := by omega
      have hFourth : d.toNat % 64 = z := by omega
      rw [if_neg (by omega), if_neg (by omega),
        if_neg (by omega), hFirst, hSecond, hThird, hFourth]
      exact ⟨rfl, rfl⟩
    · cases hFirst
  · cases hFirst

end Utf8

end UrlShortener

------------------------------------------------------------
-- Texts
------------------------------------------------------------

namespace UrlShortener

namespace Utf8

theorem encode_cons (c : Char) (cs : List Char) :
    encode (c :: cs) = String.utf8EncodeChar c ++ encode cs :=
  List.flatMap_cons

theorem encode_append (cs ds : List Char) :
    encode (cs ++ ds) = encode cs ++ encode ds :=
  List.flatMap_append

/- No character is without bytes. -/
theorem encodeChar_eq_cons (c : Char) :
    ∃ b bytes, String.utf8EncodeChar c = b :: bytes :=
  List.exists_cons_of_ne_nil String.utf8EncodeChar_ne_nil

theorem length_le_encode (cs : List Char) :
    cs.length ≤ (encode cs).length := by
  induction cs with
  | nil => exact Nat.le_refl 0
  | cons c cs ih =>
      rcases encodeChar_eq_cons c with ⟨b, bytes, hBytes⟩
      rw [encode_cons, hBytes, List.length_append,
        List.length_cons, List.length_cons]
      omega

@[simp] theorem decodeFrom_nil
    (fuel i : Nat)
    (done : List Char) :
    decodeFrom fuel i done [] = .ok done.reverse := by
  cases fuel <;> rfl

/- Reading goes through the bytes of a text. -/
theorem decodeFrom_encode
    {fuel : Nat}
    {cs : List Char}
    (hFuel : cs.length ≤ fuel)
    (i : Nat)
    (done : List Char) :
    decodeFrom fuel i done (encode cs) =
      .ok (done.reverse ++ cs) := by
  induction cs generalizing fuel i done with
  | nil => exact (decodeFrom_nil _ _ _).trans (by simp)
  | cons c cs ih =>
      rcases encodeChar_eq_cons c with ⟨b, bytes, hBytes⟩
      have hFirst := first?_encodeChar c (encode cs)
      cases fuel with
      | zero => cases hFuel
      | succ fuel =>
          have hStep :
              decodeFrom (fuel + 1) i done
                  (String.utf8EncodeChar c ++ encode cs) =
                decodeFrom fuel
                  (i + (String.utf8EncodeChar c).length)
                  (c :: done) (encode cs) := by
            rw [hBytes, List.cons_append] at hFirst ⊢
            rw [decodeFrom, hFirst]
            dsimp only
            rw [← List.cons_append, List.drop_left]
          rw [encode_cons, hStep,
            ih (Nat.le_of_succ_le_succ hFuel),
            List.reverse_cons, List.append_assoc]
          rfl

/- The bytes of a text are read as the text. -/
theorem decode_encode (cs : List Char) :
    decode (encode cs) = .ok cs :=
  decodeFrom_encode (length_le_encode cs) 0 []

/- No byte of a text has to be replaced. -/
theorem decodeLossy_encode
    {fuel : Nat}
    {cs : List Char}
    (hFuel : cs.length ≤ fuel) :
    decodeLossy fuel (encode cs) = cs := by
  induction cs generalizing fuel with
  | nil => cases fuel <;> rfl
  | cons c cs ih =>
      rcases encodeChar_eq_cons c with ⟨b, bytes, hBytes⟩
      have hFirst := first?_encodeChar c (encode cs)
      cases fuel with
      | zero => cases hFuel
      | succ fuel =>
          have hRest := ih (Nat.le_of_succ_le_succ hFuel)
          rw [encode_cons, hBytes, List.cons_append]
          rw [hBytes, List.cons_append] at hFirst
          rw [decodeLossy, hFirst]
          dsimp only
          rw [← List.cons_append, List.drop_left, hRest]

/- What was read is what the bytes are those of. -/
theorem encode_of_decodeFrom
    {fuel i : Nat}
    {done out : List Char}
    {bytes : List UInt8}
    (hRead : decodeFrom fuel i done bytes = .ok out) :
    ∃ cs, out = done.reverse ++ cs ∧ bytes = encode cs := by
  have hNothing
      {fuel i : Nat}
      {done out : List Char}
      (hRead : decodeFrom fuel i done [] = .ok out) :
      ∃ cs, out = done.reverse ++ cs ∧ [] = encode cs := by
    rw [decodeFrom_nil] at hRead
    cases hRead
    exact ⟨[], (List.append_nil _).symm, rfl⟩
  induction fuel generalizing i done bytes with
  | zero =>
      cases bytes with
      | nil => exact hNothing hRead
      | cons b bytes => cases hRead
  | succ fuel ih =>
      cases bytes with
      | nil => exact hNothing hRead
      | cons b bytes =>
          rw [decodeFrom] at hRead
          split at hRead
          · cases hRead
          · rename_i c n hFirst
            rcases ih hRead with ⟨cs, hOut, hRest⟩
            refine ⟨c :: cs, ?_, ?_⟩
            · rw [hOut, List.reverse_cons, List.append_assoc]
              rfl
            · rw [encode_cons, ← hRest]
              exact (first?_eq_some hFirst).2

/- Just its own bytes are read as a text. -/
theorem decode?_eq_some_iff
    {bytes : List UInt8}
    {cs : List Char} :
    decode? bytes = some cs ↔ bytes = encode cs := by
  constructor
  · intro hRead
    unfold decode? at hRead
    cases hResult : decode bytes with
    | error i =>
        rw [hResult] at hRead
        cases hRead
    | ok out =>
        rw [hResult] at hRead
        cases hRead
        rcases encode_of_decodeFrom hResult with
          ⟨_, rfl, hBytes⟩
        exact hBytes
  · rintro rfl
    rw [decode?, decode_encode]
    rfl

/- The bytes of a string are those of its characters. -/
theorem bytes_eq_encode (s : String) :
    bytes s = encode s.toList := by
  have hBytes : s.toUTF8 = s.toList.utf8Encode :=
    String.utf8Encode_toList.symm
  rw [bytes, hBytes]
  exact List.toList_data_toByteArray

/- Just its own bytes are read as a string. -/
theorem text?_eq_some_iff
    {bs : List UInt8}
    {s : String} : text? bs = some s ↔ bs = bytes s := by
  rw [text?, Option.map_eq_some_iff, bytes_eq_encode]
  simp only [decode?_eq_some_iff]
  constructor
  · rintro ⟨cs, rfl, rfl⟩
    rw [String.toList_ofList]
  · rintro rfl
    exact ⟨s.toList, rfl, String.ofList_toList⟩

end Utf8

end UrlShortener
