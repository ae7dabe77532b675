import Mathlib.Data.Nat.Digits.Lemmas
import Mathlib.Data.Set.Card
import UrlShortener.Proofs.Link.Minting
import UrlShortener.Proofs.Text.Escapes

/-
  How codes are spread over random bytes. The bytes are a
  number, and the digits of a code are its highest bits, six
  for each character, so every text of letters and digits is
  minted, from equally many bytes but for the two letters
  that stand for two digits each.

  Key definitions include:
    * `Mint.number`
    * `Mint.value`
    * `Mint.bit`
    * `Mint.sixBits`
    * `Mint.letter`
    * `Mint.spellings`

  Main declarations:
    * `Mint.number_take_sextets`
    * `Mint.ncard_begin`
    * `Mint.sextets_getElem?`
    * `Mint.ncard_spellings`
    * `Mint.codes_are_spread`
-/

------------------------------------------------------------
-- Bytes As A Number
------------------------------------------------------------

namespace UrlShortener

namespace Mint

/- The number of digits in a base, the highest one first. -/
def number (base : Nat) (digits : List Nat) : Nat :=
  Nat.ofDigits base digits.reverse

@[simp] theorem number_nil (base : Nat) :
    number base [] = 0 := rfl

theorem number_cons
    (base digit : Nat)
    (digits : List Nat) :
    number base (digit :: digits) =
      digit * base ^ digits.length + number base digits := by
  rw [number, List.reverse_cons, Nat.ofDigits_append,
    Nat.ofDigits_singleton, List.length_reverse, number,
    Nat.add_comm, Nat.mul_comm]

theorem number_concat
    (base digit : Nat)
    (digits : List Nat) :
    number base (digits ++ [digit]) =
      digit + base * number base digits := by
  rw [number, List.reverse_append, List.reverse_singleton,
    List.singleton_append, Nat.ofDigits_cons, number]

/- Every number has digits, and just one list of a length. -/
theorem bijOn_number
    {base : Nat}
    (hBase : 1 < base)
    (length : Nat) :
    Set.BijOn (number base)
      {digits | digits.length = length ∧
        ∀ digit ∈ digits, digit < base}
      {n | n < base ^ length} := by
  refine (Nat.bijOn_ofDigits hBase length).comp ?_
  refine ⟨?_, List.reverse_injective.injOn, ?_⟩
  · rintro digits ⟨hLength, hDigits⟩
    exact ⟨List.length_reverse.trans hLength,
      fun digit hMem => hDigits digit (List.mem_reverse.mp hMem)⟩
  · rintro digits ⟨hLength, hDigits⟩
    exact ⟨digits.reverse,
      ⟨List.length_reverse.trans hLength,
        fun digit hMem =>
          hDigits digit (List.mem_reverse.mp hMem)⟩,
      List.reverse_reverse digits⟩

/- The number of bytes, the highest one first. -/
def value (bytes : List UInt8) : Nat :=
  number 256 (bytes.map UInt8.toNat)

@[simp] theorem value_nil : value [] = 0 := rfl

theorem value_cons (byte : UInt8) (bytes : List UInt8) :
    value (byte :: bytes) =
      byte.toNat * 256 ^ bytes.length + value bytes := by
  rw [value, List.map_cons, number_cons, List.length_map, value]

/- Every number is that of bytes, and of one list of a length. -/
theorem bijOn_value (length : Nat) :
    Set.BijOn value
      {bytes : List UInt8 | bytes.length = length}
      {n | n < 256 ^ length} := by
  refine (bijOn_number (by decide) length).comp ?_
  refine ⟨?_, ?_, ?_⟩
  · intro bytes hLength
    refine ⟨(List.length_map _).trans hLength, ?_⟩
    intro digit hMem
    rcases List.mem_map.mp hMem with ⟨byte, _, rfl⟩
    exact byte.toNat_lt
  · have hInjective : Function.Injective UInt8.toNat :=
      fun _ _ => UInt8.toNat_inj.mp
    exact (List.map_injective_iff.mpr hInjective).injOn
  · rintro digits ⟨hLength, hDigits⟩
    refine ⟨digits.map UInt8.ofNat,
      (List.length_map _).trans hLength, ?_⟩
    rw [List.map_map]
    refine List.map_congr_left ?_ |>.trans (List.map_id digits)
    intro digit hMem
    exact UInt8.toNat_ofNat_of_lt (hDigits digit hMem)

theorem value_lt (bytes : List UInt8) :
    value bytes < 256 ^ bytes.length :=
  (bijOn_value bytes.length).mapsTo rfl

end Mint

end UrlShortener

------------------------------------------------------------
-- Digits As Highest Bits
------------------------------------------------------------

namespace UrlShortener

namespace Mint

theorem sextets_lt (bytes : List UInt8) :
    ∀ digit ∈ sextets bytes, digit < 64 := by
  induction bytes using sextets.induct with
  | case1 => simp [sextets]
  | case2 a =>
      have hA := a.toNat_lt
      simp only [sextets, List.forall_mem_cons]
      refine ⟨by omega, by omega, by simp⟩
  | case3 a b =>
      have hA := a.toNat_lt
      have hB := b.toNat_lt
      simp only [sextets, List.forall_mem_cons]
      refine ⟨by omega, by omega, by omega, by simp⟩
  | case4 a b c rest ih =>
      have hA := a.toNat_lt
      have hB := b.toNat_lt
      have hC := c.toNat_lt
      simp only [sextets, List.forall_mem_cons]
      exact ⟨by omega, by omega, by omega, by omega, ih⟩

theorem length_take_sextets
    {bytes : List UInt8}
    {count : Nat}
    (hCount : 6 * count ≤ 8 * bytes.length) :
    ((sextets bytes).take count).length = count := by
  rw [List.length_take, sextets_length]
  omega

/- Three bytes in front of others. -/
theorem value_three
    (a b c : UInt8)
    (rest : List UInt8) :
    value (a :: b :: c :: rest) =
      256 ^ rest.length *
        (65536 * a.toNat + 256 * b.toNat + c.toNat) +
          value rest := by
  simp only [value_cons, List.length_cons, Nat.pow_succ]
  ring

/- Three digits and less are bits of the first three bytes. -/
theorem number_take_few
    (a b c : UInt8)
    (rest : List UInt8)
    {count : Nat}
    (hFew : count ≤ 3) :
    number 64 ((sextets (a :: b :: c :: rest)).take count) =
      value (a :: b :: c :: rest) /
        2 ^ (8 * rest.length + (24 - 6 * count)) := by
  have hA := a.toNat_lt
  have hB := b.toNat_lt
  have hC := c.toNat_lt
  have hPower : 2 ^ (8 * rest.length) = 256 ^ rest.length :=
    Nat.pow_mul 2 8 rest.length
  rw [Nat.pow_add, hPower, ← Nat.div_div_eq_div_mul,
    value_three, Nat.mul_add_div (Nat.pow_pos (by decide)),
    Nat.div_eq_of_lt (value_lt rest), Nat.add_zero]
  interval_cases count
  · simp
    omega
  · simp [sextets, number_cons]
    omega
  · simp [sextets, number_cons]
    omega
  · simp [sextets, number_cons]
    omega

/- Four digits and more go on with the bytes behind. -/
theorem number_take_more
    (a b c : UInt8)
    {rest : List UInt8}
    {more : Nat}
    (hMore : 6 * more ≤ 8 * rest.length)
    (hRest :
      number 64 ((sextets rest).take more) =
        value rest / 2 ^ (8 * rest.length - 6 * more)) :
    number 64 ((sextets (a :: b :: c :: rest)).take (more + 4)) =
      value (a :: b :: c :: rest) /
        2 ^ (8 * rest.length - 6 * more) := by
  have hPower :
      256 ^ rest.length =
        2 ^ (8 * rest.length - 6 * more) * 64 ^ more := by
    rw [show 256 = 2 ^ 8 from rfl, show 64 = 2 ^ 6 from rfl,
      ← Nat.pow_mul, ← Nat.pow_mul, ← Nat.pow_add,
      Nat.sub_add_cancel hMore]
  have hHead :
      65536 * a.toNat + 256 * b.toNat + c.toNat =
        a.toNat / 4 * 64 ^ 3 +
          (a.toNat % 4 * 16 + b.toNat / 16) * 64 ^ 2 +
          (b.toNat % 16 * 4 + c.toNat / 64) * 64 +
          c.toNat % 64 := by
    have hB := b.toNat_lt
    have hC := c.toNat_lt
    omega
  rw [value_three, hPower, Nat.mul_assoc,
    Nat.mul_add_div (Nat.two_pow_pos _), ← hRest, sextets,
    List.take_succ_cons, List.take_succ_cons,
    List.take_succ_cons, List.take_succ_cons]
  simp only [number_cons, List.length_cons,
    length_take_sextets hMore]
  rw [hHead]
  ring

/-
  The first digits of bytes, as a number, are the highest
  bits of the bytes.
-/
theorem number_take_sextets
    {bytes : List UInt8}
    {count : Nat}
    (hCount : 6 * count ≤ 8 * bytes.length) :
    number 64 ((sextets bytes).take count) =
      value bytes / 2 ^ (8 * bytes.length - 6 * count) := by
  induction bytes using sextets.induct generalizing count with
  | case1 =>
      simp [sextets]
  | case2 a =>
      have hA := a.toNat_lt
      have hFew : count ≤ 1 := by
        simp only [List.length_singleton] at hCount
        omega
      interval_cases count
      · simp [value_cons]
        omega
      · simp [sextets, value_cons, number_cons]
  | case3 a b =>
      have hA := a.toNat_lt
      have hB := b.toNat_lt
      have hFew : count ≤ 2 := by
        simp only [List.length_cons, List.length_nil] at hCount
        omega
      interval_cases count
      · simp [value_cons]
        omega
      · simp [sextets, value_cons, number_cons]
        omega
      · simp [sextets, value_cons, number_cons]
        omega
  | case4 a b c rest ih =>
      rw [List.length_cons, List.length_cons, List.length_cons]
        at hCount ⊢
      by_cases hFew : count ≤ 3
      · have hBits :
            8 * (rest.length + 1 + 1 + 1) - 6 * count =
              8 * rest.length + (24 - 6 * count) := by omega
        rw [hBits]
        exact number_take_few a b c rest hFew
      · obtain ⟨more, rfl⟩ : ∃ more, count = more + 4 :=
          ⟨count - 4, by omega⟩
        have hMore : 6 * more ≤ 8 * rest.length := by omega
        have hBits :
            8 * (rest.length + 1 + 1 + 1) - 6 * (more + 4) =
              8 * rest.length - 6 * more := by omega
        rw [hBits]
        exact number_take_more a b c hMore (ih hMore)

/- The bits of a digit are the next six. -/
theorem sextets_getElem?
    {bytes : List UInt8}
    {i : Nat}
    (hWhole : 6 * i + 6 ≤ 8 * bytes.length) :
    (sextets bytes)[i]? =
      some (value bytes / 2 ^ (8 * bytes.length - 6 * i - 6) %
        64) := by
  have hLength : i < (sextets bytes).length := by
    rw [sextets_length]
    omega
  have hTake :
      number 64 ((sextets bytes).take (i + 1)) =
        value bytes / 2 ^ (8 * bytes.length - 6 * (i + 1)) :=
    number_take_sextets (by omega)
  rw [← List.take_concat_get' _ _ hLength, number_concat]
    at hTake
  have hDigit :=
    sextets_lt bytes _ (List.getElem_mem hLength)
  rw [List.getElem?_eq_getElem hLength, Nat.sub_sub,
    show 6 * i + 6 = 6 * (i + 1) from rfl, ← hTake,
    Nat.add_mul_mod_self_left, Nat.mod_eq_of_lt hDigit]

end Mint

end UrlShortener

------------------------------------------------------------
-- Six Bits A Character
------------------------------------------------------------

namespace UrlShortener

namespace Mint

/- A bit of bytes, counted from the highest of the first. -/
def bit (bytes : List UInt8) (j : Nat) : Bool :=
  (bytes.getD (j / 8) 0).toNat.testBit (7 - j % 8)

/- The number of six bits: of those from `6 * i` on. -/
def sixBits (bytes : List UInt8) (i : Nat) : Nat :=
  (List.range 6).foldl
    (fun n j => 2 * n + (bit bytes (6 * i + j)).toNat) 0

/- The bits of bytes are those of their number. -/
theorem testBit_value
    {bytes : List UInt8}
    {j : Nat}
    (hBit : j < 8 * bytes.length) :
    (value bytes).testBit (8 * bytes.length - 1 - j) =
      bit bytes j := by
  induction bytes generalizing j with
  | nil => exact absurd hBit (Nat.not_lt_zero j)
  | cons byte bytes ih =>
      have hPower : 256 ^ bytes.length = 2 ^ (8 * bytes.length) :=
        (Nat.pow_mul 2 8 bytes.length).symm
      have hRest := hPower ▸ value_lt bytes
      rw [value_cons, hPower, Nat.mul_comm,
        Nat.testBit_two_pow_mul_add _ hRest]
      rw [List.length_cons] at hBit ⊢
      by_cases hFirst : j < 8
      · rw [if_neg (by omega), bit, Nat.div_eq_of_lt hFirst,
          Nat.mod_eq_of_lt hFirst, List.getD_cons_zero]
        congr 1
        omega
      · have hBelow : j - 8 < 8 * bytes.length := by omega
        have hPlace :
            8 * (bytes.length + 1) - 1 - j =
              8 * bytes.length - 1 - (j - 8) := by omega
        have hByte : j / 8 = (j - 8) / 8 + 1 := by omega
        have hInByte : j % 8 = (j - 8) % 8 := by omega
        rw [if_pos (by omega), hPlace, ih hBelow, bit, bit,
          hByte, hInByte, List.getD_cons_succ]

/- Six bits make up a number below 64. -/
theorem foldl_testBit
    {n : Nat}
    (hSmall : n < 64) :
    (List.range 6).foldl
      (fun m j => 2 * m + (n.testBit (5 - j)).toNat) 0 = n := by
  have hAll :
      ∀ n < 64,
        (List.range 6).foldl
          (fun m j => 2 * m + (n.testBit (5 - j)).toNat) 0 =
            n := by decide
  exact hAll n hSmall

theorem sixBits_eq
    {bytes : List UInt8}
    {i : Nat}
    (hWhole : 6 * i + 6 ≤ 8 * bytes.length) :
    sixBits bytes i =
      value bytes / 2 ^ (8 * bytes.length - 6 * i - 6) % 64 := by
  rw [← foldl_testBit (Nat.mod_lt
    (value bytes / 2 ^ (8 * bytes.length - 6 * i - 6))
    (by decide : 64 > 0))]
  refine List.foldl_ext _ _ _ ?_
  intro n j hMem
  have hSix := List.mem_range.mp hMem
  have hPlace :
      8 * bytes.length - 6 * i - 6 + (5 - j) =
        8 * bytes.length - 1 - (6 * i + j) := by omega
  rw [show 64 = 2 ^ 6 from rfl, Nat.testBit_mod_two_pow,
    Nat.testBit_div_two_pow, Nat.add_comm (5 - j), hPlace,
    testBit_value (by omega)]
  simp [show 5 - j < 6 by omega]

/- The character of a digit of six bits. -/
def letter (digit : Nat) : Char :=
  plain (symbol digit)

/- Each character of a code is made of six bits of its own. -/
theorem code_getElem?
    {bytes : List UInt8}
    {i : Nat}
    (hChar : i < bytes.length) :
    (code bytes.length bytes)[i]? =
      some (letter (sixBits bytes i)) := by
  have hWhole : 6 * i + 6 ≤ 8 * bytes.length := by omega
  rw [code, List.getElem?_map, List.getElem?_take, if_pos hChar,
    sextets_getElem? hWhole, ← sixBits_eq hWhole]
  rfl

end Mint

end UrlShortener

------------------------------------------------------------
-- Bytes That Begin With Given Digits
------------------------------------------------------------

namespace UrlShortener

namespace Mint

/- The lists of digits of a length. -/
def digitLists (count : Nat) : Set (List Nat) :=
  {digits | digits.length = count ∧ ∀ digit ∈ digits, digit < 64}

/-
  Bytes are their first digits and the number of the bits
  behind. Any digits may stand in front of any such number.
-/
theorem bijOn_begin
    {length count : Nat}
    (hCount : 6 * count ≤ 8 * length) :
    Set.BijOn
      (fun bytes =>
        ((sextets bytes).take count,
          value bytes % 2 ^ (8 * length - 6 * count)))
      {bytes : List UInt8 | bytes.length = length}
      (digitLists count ×ˢ
        Set.Iio (2 ^ (8 * length - 6 * count))) := by
  have hDigits := bijOn_number (by decide : 1 < 64) count
  have hBytes := bijOn_value length
  refine ⟨?_, ?_, ?_⟩
  · rintro bytes rfl
    refine ⟨⟨length_take_sextets hCount, ?_⟩,
      Nat.mod_lt _ (Nat.two_pow_pos _)⟩
    exact fun digit hMem =>
      sextets_lt bytes digit (List.mem_of_mem_take hMem)
  · rintro bytes rfl other hLength hSame
    rw [Prod.mk.injEq] at hSame
    have hQuotient := congrArg (number 64) hSame.1
    rw [number_take_sextets hCount,
      number_take_sextets (hLength ▸ hCount), hLength]
      at hQuotient
    apply hBytes.injOn rfl hLength
    rw [← Nat.div_add_mod (value bytes), hQuotient, hSame.2,
      Nat.div_add_mod]
  · rintro ⟨digits, behind⟩ ⟨hList, hBehind⟩
    rw [Set.mem_Iio] at hBehind
    have hPower :
        2 ^ (8 * length - 6 * count) * 64 ^ count =
          256 ^ length := by
      rw [show 64 = 2 ^ 6 from rfl, show 256 = 2 ^ 8 from rfl,
        ← Nat.pow_mul, ← Nat.pow_mul, ← Nat.pow_add,
        Nat.sub_add_cancel hCount]
    have hNumber : number 64 digits < 64 ^ count :=
      hDigits.mapsTo hList
    have hLt :
        2 ^ (8 * length - 6 * count) * number 64 digits +
          behind < 256 ^ length := by
      rw [← hPower]
      exact Nat.lt_of_lt_of_le (Nat.add_lt_add_left hBehind _)
        (Nat.mul_le_mul_left _ hNumber)
    rcases hBytes.surjOn hLt with ⟨bytes, rfl, hValue⟩
    refine ⟨bytes, rfl, ?_⟩
    have hBegin : (sextets bytes).take count = digits := by
      refine hDigits.injOn ⟨length_take_sextets hCount, ?_⟩
        hList ?_
      · exact fun digit hMem =>
          sextets_lt bytes digit (List.mem_of_mem_take hMem)
      · rw [number_take_sextets hCount, hValue,
          Nat.mul_add_div (Nat.two_pow_pos _),
          Nat.div_eq_of_lt hBehind, Nat.add_zero]
    dsimp only
    rw [hBegin, hValue, Nat.mul_add_mod,
      Nat.mod_eq_of_lt hBehind]

/- So many bytes begin with digits of a kind. -/
theorem ncard_begin
    {length count : Nat}
    (hCount : 6 * count ≤ 8 * length)
    {kind : Set (List Nat)}
    (hKind : kind ⊆ digitLists count) :
    {bytes : List UInt8 | bytes.length = length ∧
        (sextets bytes).take count ∈ kind}.ncard =
      kind.ncard * 2 ^ (8 * length - 6 * count) := by
  have hBijection :=
    (bijOn_begin hCount).subset_right
      (Set.prod_mono_left
        (t := Set.Iio (2 ^ (8 * length - 6 * count))) hKind)
  have hNumbers :
      (Set.Iio (2 ^ (8 * length - 6 * count))).ncard =
        2 ^ (8 * length - 6 * count) := by
    rw [← Finset.coe_Iio, Set.ncard_coe_finset, Nat.card_Iio]
  rw [← hNumbers, ← Set.ncard_prod, ← hBijection.ncard_eq]
  congr 1
  ext bytes
  refine and_congr_right fun _ => ?_
  refine (and_iff_left ?_).symm
  exact Nat.mod_lt _ (Nat.two_pow_pos _)

end Mint

end UrlShortener

------------------------------------------------------------
-- Digits That Spell A Code
------------------------------------------------------------

namespace UrlShortener

namespace Mint

/- A letter that stands for two digits. -/
def isDoubled (c : Char) : Bool :=
  c == 'A' || c == 'B'

/- The digits that are written as a text. -/
def spellings (code : List Char) : Set (List Nat) :=
  {digits | digits.map letter = code ∧
    ∀ digit ∈ digits, digit < 64}

theorem spellings_subset (code : List Char) :
    spellings code ⊆ digitLists code.length := by
  rintro digits ⟨rfl, hDigits⟩
  exact ⟨(List.length_map _).symm, hDigits⟩

/- Letters and digits all stand for a digit, or for two. -/
theorem ncard_digits
    {c : Char}
    (hPlain : c.isAlphanum = true) :
    {digit | letter digit = c ∧ digit < 64}.ncard =
      2 ^ (isDoubled c).toNat := by
  have hAll :
      c.isAlphanum = true →
        ((Finset.range 64).filter (letter · = c)).card =
          2 ^ (isDoubled c).toNat :=
    Utf8.forall_ascii (by decide +kernel)
      (Utf8.ascii_of_isAlphanum hPlain)
  rw [← hAll hPlain, ← Set.ncard_coe_finset]
  congr 1
  ext digit
  simp [and_comm]

/- Each of the two letters doubles the number of spellings. -/
theorem ncard_spellings
    {code : List Char}
    (hPlain : ∀ c ∈ code, c.isAlphanum = true) :
    (spellings code).ncard = 2 ^ code.countP isDoubled := by
  induction code with
  | nil =>
      have hNone : spellings [] = {[]} := by
        ext digits
        simp +contextual [spellings]
      rw [hNone, Set.ncard_singleton]
      rfl
  | cons c code ih =>
      rw [List.forall_mem_cons] at hPlain
      have hSplit :
          Set.BijOn (fun p : Nat × List Nat => p.1 :: p.2)
            ({digit | letter digit = c ∧ digit < 64} ×ˢ
              spellings code)
            (spellings (c :: code)) := by
        refine ⟨?_, ?_, ?_⟩
        · rintro ⟨digit, digits⟩
            ⟨⟨hFirst, hLt⟩, hRest, hDigits⟩
          exact ⟨by rw [List.map_cons, hFirst, hRest],
            List.forall_mem_cons.mpr ⟨hLt, hDigits⟩⟩
        · rintro ⟨_, _⟩ _ ⟨_, _⟩ _ hSame
          cases hSame
          rfl
        · rintro (_ | ⟨digit, digits⟩) ⟨hCode, hDigits⟩
          · cases hCode
          · cases hCode
            rw [List.forall_mem_cons] at hDigits
            exact ⟨(digit, digits),
              ⟨⟨rfl, hDigits.1⟩, rfl, hDigits.2⟩, rfl⟩
      rw [← hSplit.ncard_eq, Set.ncard_prod,
        ncard_digits hPlain.1, ih hPlain.2, ← Nat.pow_add,
        List.countP_cons, Nat.add_comm]
      congr 2
      cases isDoubled c with
      | true => rfl
      | false => rfl

/- A code is written in its first digits. -/
theorem mint_eq_ok_iff
    {bytes : List UInt8}
    {code : String}
    (hBytes : bytes ≠ []) :
    mint bytes.length bytes = .ok code ↔
      (sextets bytes).take bytes.length ∈
        spellings code.toList := by
  have hDigits :
      ∀ digit ∈ (sextets bytes).take bytes.length,
        digit < 64 :=
    fun digit hMem =>
      sextets_lt bytes digit (List.mem_of_mem_take hMem)
  rw [mint, if_neg (List.length_eq_zero_iff.not.mpr hBytes),
    Except.ok.injEq, ← String.toList_inj,
    String.toList_ofList]
  exact (and_iff_left hDigits).symm

end Mint

end UrlShortener

------------------------------------------------------------
-- The Spread Of Codes
------------------------------------------------------------

namespace UrlShortener

namespace Mint

/-
  As many random bytes as a code is to have characters make
  one. Each of its characters is made of six bits of its own,
  and all of these are bits of the bytes. The codes are just
  the texts of so many letters and digits, and each is minted
  from equally many bytes, twice as many for every `A` and
  every `B` in it.
-/
theorem codes_are_spread
    {length : Nat}
    (hLength : length ≠ 0) :
    {bytes : List UInt8 | bytes.length = length}.ncard =
        256 ^ length ∧
    (∀ bytes : List UInt8, bytes.length = length →
      ∃ code, mint length bytes = .ok code ∧
        ∀ i < length,
          6 * i + 6 ≤ 8 * length ∧
          code.toList[i]? = some (letter (sixBits bytes i))) ∧
    (∀ code : String,
      (∃ bytes : List UInt8, bytes.length = length ∧
        mint length bytes = .ok code) ↔
          IsMinted length code) ∧
    (∀ code : String, IsMinted length code →
      {bytes : List UInt8 | bytes.length = length ∧
          mint length bytes = .ok code}.ncard =
        4 ^ length * 2 ^ code.toList.countP isDoubled) := by
  have hCount :
      ∀ code : String, IsMinted length code →
        {bytes : List UInt8 | bytes.length = length ∧
            mint length bytes = .ok code}.ncard =
          4 ^ length * 2 ^ code.toList.countP isDoubled := by
    intro code hMinted
    have hKind : spellings code.toList ⊆ digitLists length := by
      rw [← hMinted.length_eq, ← String.length_toList]
      exact spellings_subset code.toList
    have hBits : 8 * length - 6 * length = 2 * length := by
      omega
    have hBegin :=
      ncard_begin (by omega : 6 * length ≤ 8 * length) hKind
    rw [ncard_spellings hMinted.symbols, hBits, Nat.pow_mul,
      Nat.mul_comm] at hBegin
    rw [← show 2 ^ 2 = 4 from rfl, ← hBegin]
    congr 1
    ext bytes
    refine and_congr_right ?_
    rintro rfl
    exact mint_eq_ok_iff (List.length_eq_zero_iff.not.mp hLength)
  refine ⟨?_, ?_, ?_, hCount⟩
  · rw [(bijOn_value length).ncard_eq]
    change (Set.Iio (256 ^ length)).ncard = 256 ^ length
    rw [← Finset.coe_Iio, Set.ncard_coe_finset, Nat.card_Iio]
  · rintro bytes rfl
    refine ⟨_, if_neg hLength, fun i hChar => ⟨by omega, ?_⟩⟩
    rw [String.toList_ofList]
    exact code_getElem? hChar
  · intro code
    constructor
    · rintro ⟨bytes, hBytes, hMint⟩
      exact isMinted_of_mint hBytes hMint
    · intro hMinted
      have hSome :
          {bytes : List UInt8 | bytes.length = length ∧
              mint length bytes = .ok code}.Nonempty := by
        apply Set.nonempty_of_ncard_ne_zero
        rw [hCount code hMinted]
        positivity
      exact hSome

/- One of the two characters stands for two digits here. -/
theorem sample_codes_are_spread :
    2 ≠ 0 ∧ IsMinted 2 "A7" ∧
      {bytes : List UInt8 | bytes.length = 2 ∧
        mint 2 bytes = .ok "A7"}.ncard = 32 := by
  have hMinted : IsMinted 2 "A7" := ⟨rfl, by simp⟩
  have hDoubled : "A7".toList.countP isDoubled = 1 := by decide
  have hCount :=
    (codes_are_spread (by decide : 2 ≠ 0)).2.2.2 "A7" hMinted
  rw [hDoubled] at hCount
  exact ⟨by decide, hMinted, hCount⟩

end Mint

end UrlShortener
