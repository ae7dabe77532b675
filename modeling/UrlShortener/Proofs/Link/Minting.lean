import UrlShortener.App.Minter
import UrlShortener.Text.Blank

/-
  Minted codes are made of letters and digits alone, as many
  as were asked for, so they are not blank. A source of
  codes whose list names no blank code never gives one.

  Key definitions include:
    * `Mint.IsMinted`
    * `Minter.NeverBlank`

  Main declarations:
    * `Mint.sextets_length`
    * `Mint.isMinted_of_mint`
    * `Mint.mint_not_blank`
    * `Minter.NeverBlank.of_draw`
-/

------------------------------------------------------------
-- Random Codes
------------------------------------------------------------

namespace UrlShortener

namespace Mint

/- The two symbols that are replaced stand for letters. -/
theorem exists_plain_symbol_eq (n : Nat) :
    ∃ m < 62, plain (symbol n) = plain (symbol m) := by
  by_cases hSmall : n < 62
  · exact ⟨n, hSmall, rfl⟩
  · have hRest :
        symbol n = if n = 62 then '-' else '_' := by
      unfold symbol
      rw [if_neg (by omega), if_neg (by omega),
        if_neg hSmall]
    rw [hRest]
    split
    · exact ⟨1, by decide, rfl⟩
    · exact ⟨0, by decide, rfl⟩

/- Every symbol of a code is a letter or a digit. -/
theorem plain_symbol_alphanum (n : Nat) :
    (plain (symbol n)).isAlphanum = true := by
  have hAlphabet :
      ∀ m < 62, (plain (symbol m)).isAlphanum = true := by
    decide
  rcases exists_plain_symbol_eq n with ⟨m, hLt, hSame⟩
  rw [hSame]
  exact hAlphabet m hLt

/- No symbol of a code is blank. -/
theorem plain_symbol_not_blank (n : Nat) :
    Text.isBlank (plain (symbol n)) = false := by
  have hAlphabet :
      ∀ m < 62, Text.isBlank (plain (symbol m)) = false := by
    decide
  rcases exists_plain_symbol_eq n with ⟨m, hLt, hSame⟩
  rw [hSame]
  exact hAlphabet m hLt

/- Three bytes make four digits, and the rest fewer. -/
theorem sextets_length (bytes : List UInt8) :
    (sextets bytes).length = (4 * bytes.length + 2) / 3 := by
  induction bytes using sextets.induct with
  | case1 => rfl
  | case2 a => simp [sextets]
  | case3 a b => simp [sextets]
  | case4 a b c rest ih =>
      rw [sextets]
      simp only [List.length_cons, ih]
      omega

/- A text of letters and digits, as many as asked for. -/
structure IsMinted (length : Nat) (code : String) : Prop where
  length_eq : code.length = length
  symbols : ∀ c ∈ code.toList, c.isAlphanum = true

/- There are always enough digits for a code. -/
theorem isMinted_of_mint
    {length : Nat}
    {bytes : List UInt8}
    {code : String}
    (hBytes : bytes.length = length)
    (hMint : mint length bytes = .ok code) :
    IsMinted length code := by
  unfold mint at hMint
  split at hMint
  · cases hMint
  · cases hMint
    constructor
    · have hEnough : length ≤ (sextets bytes).length := by
        rw [sextets_length]
        omega
      rw [String.length_ofList, Mint.code, List.length_map,
        List.length_take, Nat.min_eq_left hEnough]
    · intro c hMem
      rw [String.toList_ofList, Mint.code, List.mem_map]
        at hMem
      rcases hMem with ⟨n, _, rfl⟩
      exact plain_symbol_alphanum n

/- A byte gives at least one digit. -/
theorem sextets_ne_nil
    {bytes : List UInt8}
    (hBytes : bytes ≠ []) : sextets bytes ≠ [] := by
  match bytes, hBytes with
  | [_], _ => simp [sextets]
  | [_, _], _ => simp [sextets]
  | _ :: _ :: _ :: _, _ => simp [sextets]

/- A code that was minted is not blank. -/
theorem mint_not_blank
    {length : Nat}
    {bytes : List UInt8}
    {code : String}
    (hBytes : bytes.length = length)
    (hMint : mint length bytes = .ok code) :
    Text.isBlankText code = false := by
  unfold mint at hMint
  split at hMint
  · cases hMint
  · rename_i hLength
    cases hMint
    have hNonempty : bytes ≠ [] := by
      rintro rfl
      exact hLength hBytes.symm
    have hDigits : (sextets bytes).take length ≠ [] := by
      simp [hLength, sextets_ne_nil hNonempty]
    rcases List.exists_cons_of_ne_nil hDigits with
      ⟨digit, digits, hCons⟩
    simp [Text.isBlankText, Mint.code, hCons,
      plain_symbol_not_blank]

end Mint

end UrlShortener

------------------------------------------------------------
-- Sources Of Codes
------------------------------------------------------------

namespace UrlShortener

namespace Minter

/- No code that was listed is blank. -/
def NeverBlank : Minter → Prop
| .random => True
| .listed draws =>
    ∀ code, .given code ∈ draws → Text.isBlankText code = false

/- A random code has the length that was asked for. -/
theorem isMinted_of_mintRandom
    {bytes : Nat → UInt8}
    {length : Nat}
    {code : String}
    (hMint : mintRandom bytes length = .ok code) :
    Mint.IsMinted length code :=
  Mint.isMinted_of_mint (by simp [buffer]) hMint

/- A random code is not blank. -/
theorem mintRandom_not_blank
    {bytes : Nat → UInt8}
    {length : Nat}
    {code : String}
    (hMint : mintRandom bytes length = .ok code) :
    Text.isBlankText code = false :=
  Mint.mint_not_blank (by simp [buffer]) hMint

namespace NeverBlank

variable {m : Minter} {bytes : Nat → UInt8} {length : Nat}

/- A draw of such a source is not blank. -/
theorem of_draw
    {code : String}
    (hNever : m.NeverBlank)
    (hDraw : (m.draw bytes length).1 = .ok code) :
    Text.isBlankText code = false := by
  match m, hNever with
  | .random, _ => exact mintRandom_not_blank hDraw
  | .listed [], _ => cases hDraw
  | .listed (.given given :: rest), hNever =>
      cases hDraw
      exact hNever code List.mem_cons_self
  | .listed (.random :: rest), _ =>
      exact mintRandom_not_blank hDraw
  | .listed (.failed reason :: rest), _ => cases hDraw

/- After a draw, the source is still of this kind. -/
theorem draw
    (hNever : m.NeverBlank)
    (bytes : Nat → UInt8)
    (length : Nat) :
    (m.draw bytes length).2.NeverBlank := by
  match m, hNever with
  | .random, _ => exact True.intro
  | .listed [], hNever => exact hNever
  | .listed (.given given :: rest), hNever =>
      intro code hMem
      exact hNever code (List.mem_cons_of_mem _ hMem)
  | .listed (.random :: rest), hNever =>
      intro code hMem
      exact hNever code (List.mem_cons_of_mem _ hMem)
  | .listed (.failed reason :: rest), hNever =>
      intro code hMem
      exact hNever code (List.mem_cons_of_mem _ hMem)

end NeverBlank

end Minter

end UrlShortener
