import UrlShortener.Proofs.Text.Printable
import UrlShortener.Proofs.Url.Reading

/-
  The characters of domain names in their ASCII form, and of
  the hosts that are read from them. Labels that are not
  ASCII are written in digits behind a mark, and no other
  label has a character that is forbidden.

  Key definitions include:
    * `Domain.IsAllowed`
    * `IsHostText`
    * `Host.IsRead`

  Main declarations:
    * `Punycode.encode_allowed`
    * `Domain.toAscii?_allowed`
    * `Host.isRead_of_ofDomain`
    * `Host.isHostText_of_ofDomain`
    * `IsHostText.splitPort`
-/

------------------------------------------------------------
-- Encoded Labels
------------------------------------------------------------

namespace UrlShortener

/- An ASCII character that a domain name may hold. -/
def Domain.IsAllowed (c : Char) : Prop :=
  c.toNat < 0x80 ∧ isForbidden c = false

instance : DecidablePred Domain.IsAllowed :=
  fun c => inferInstanceAs
    (Decidable (c.toNat < 0x80 ∧ Domain.isForbidden c = false))

namespace Punycode

open Domain (IsAllowed)

theorem digit_allowed
    {n : Nat}
    (hDigit : n < 36) : IsAllowed (digit n) := by
  have hAll : ∀ m < 36, IsAllowed (digit m) := by decide
  exact hAll n hDigit

theorem threshold_bounds (k bias : Nat) :
    1 ≤ threshold k bias ∧ threshold k bias ≤ 26 := by
  unfold threshold
  omega

/- A number is written in digits. -/
theorem number_allowed (fuel bias k q : Nat) :
    ∀ c ∈ number fuel bias k q, IsAllowed c := by
  induction fuel generalizing k q with
  | zero => exact List.forall_mem_nil _
  | succ fuel ih =>
      have hBounds := threshold_bounds k bias
      unfold number
      dsimp only
      split
      · rw [List.forall_mem_singleton]
        exact digit_allowed (by omega)
      · have hRest :=
          Nat.mod_lt (q - threshold k bias)
            (Nat.sub_pos_of_lt (by omega :
              threshold k bias < 36))
        rw [List.forall_mem_cons]
        exact ⟨digit_allowed (by omega), ih _ _⟩

theorem take_allowed
    {w : Writer}
    (hWritten : ∀ c ∈ w.written, IsAllowed c)
    (basic n m : Nat) :
    ∀ c ∈ (w.take basic n m).written, IsAllowed c := by
  unfold Writer.take
  split
  · exact hWritten
  · split
    · exact List.forall_mem_append.mpr
        ⟨hWritten, number_allowed _ _ _ _⟩
    · exact hWritten

theorem foldl_take_allowed
    {w : Writer}
    (hWritten : ∀ c ∈ w.written, IsAllowed c)
    (basic n : Nat)
    (ms : List Nat) :
    ∀ c ∈ (ms.foldl (Writer.take basic n) w).written,
      IsAllowed c := by
  induction ms generalizing w with
  | nil => exact hWritten
  | cons m ms ih => exact ih (take_allowed hWritten _ _ _)

theorem encodeFrom_allowed
    {w : Writer}
    (hWritten : ∀ c ∈ w.written, IsAllowed c)
    (fuel basic n : Nat)
    (ms : List Nat) :
    ∀ c ∈ encodeFrom fuel basic n ms w, IsAllowed c := by
  induction fuel generalizing n w with
  | zero => exact hWritten
  | succ fuel ih =>
      unfold encodeFrom
      split
      · exact hWritten
      · refine ih ?_ _
        apply foldl_take_allowed
        exact hWritten

/- Only the ASCII characters of a text are written as such. -/
theorem encode_allowed
    {cs : List Char}
    (hBasic : ∀ c ∈ cs, c.toNat < 0x80 → IsAllowed c) :
    ∀ c ∈ encode cs, IsAllowed c := by
  have hFiltered :
      ∀ c ∈ cs.filter (·.toNat < 0x80), IsAllowed c := by
    intro c hChar
    rw [List.mem_filter, decide_eq_true_eq] at hChar
    exact hBasic c hChar.1 hChar.2
  refine encodeFrom_allowed ?_ _ _ _ _
  dsimp only
  split
  · exact List.forall_mem_nil _
  · rw [List.forall_mem_append, List.forall_mem_singleton]
    exact ⟨hFiltered, by decide⟩

end Punycode

end UrlShortener

------------------------------------------------------------
-- Names
------------------------------------------------------------

namespace UrlShortener

/- The results of a list were computed from its members. -/
theorem Text.mem_of_mapM
    {α β : Type}
    {f : α → Option β}
    {xs : List α}
    {ys : List β}
    (hMap : xs.mapM f = some ys) :
    ∀ y ∈ ys, ∃ x ∈ xs, f x = some y := by
  induction xs generalizing ys with
  | nil =>
      cases hMap
      nofun
  | cons x xs ih =>
      rw [List.mapM_cons] at hMap
      simp only [Option.bind_eq_bind, Option.bind_eq_some_iff,
        Option.pure_def, Option.some.injEq] at hMap
      rcases hMap with ⟨first, hFirst, rest, hRest, rfl⟩
      rw [List.forall_mem_cons]
      refine ⟨⟨x, List.mem_cons_self, hFirst⟩, ?_⟩
      intro y hMem
      rcases ih hRest y hMem with ⟨x', hMem', hResult⟩
      exact ⟨x', List.mem_cons_of_mem x hMem', hResult⟩

/- Results that are all there make up the list of them. -/
theorem Text.mapM_eq_some
    {α β : Type}
    {f : α → Option β}
    {g : α → β}
    {xs : List α}
    (hAll : ∀ x ∈ xs, f x = some (g x)) :
    xs.mapM f = some (xs.map g) := by
  induction xs with
  | nil => rfl
  | cons x xs ih =>
      rcases List.forall_mem_cons.mp hAll with ⟨hFirst, hRest⟩
      rw [List.mapM_cons, hFirst, ih hRest]
      rfl

theorem Text.mapM_eq_self
    {α : Type}
    {f : α → Option α}
    {xs : List α}
    (hAll : ∀ x ∈ xs, f x = some x) : xs.mapM f = some xs :=
  (mapM_eq_some hAll).trans (congrArg some (List.map_id' xs))

namespace Domain

/- A label is kept if it is ASCII, and encoded otherwise. -/
theorem written?_allowed
    {label written : List Char}
    (hAllowed : label.any isForbidden = false)
    (hWritten : written? label = some written) :
    ∀ c ∈ written, IsAllowed c := by
  have hBasic :
      ∀ c ∈ label, c.toNat < 0x80 → IsAllowed c := by
    intro c hChar hAscii
    exact ⟨hAscii, Bool.eq_false_iff.mpr
      (List.any_eq_false.mp hAllowed c hChar)⟩
  unfold written? at hWritten
  split at hWritten
  · rename_i hAscii
    cases hWritten
    rw [isAscii, List.all_eq_true] at hAscii
    intro c hChar
    exact hBasic c hChar
      (of_decide_eq_true (hAscii c hChar))
  · split at hWritten
    · cases hWritten
    · cases hWritten
      rw [List.forall_mem_append]
      refine ⟨?_, Punycode.encode_allowed hBasic⟩
      simp only [encodedMark, List.forall_mem_cons]
      exact ⟨by decide, by decide, by decide, by decide,
        List.forall_mem_nil _⟩

/- No character of a name is forbidden. -/
theorem toAscii?_allowed
    {cs name : List Char}
    (hName : toAscii? cs = some name) :
    ∀ c ∈ name, IsAllowed c := by
  unfold toAscii? at hName
  simp only [Option.bind_eq_bind, Option.bind_eq_some_iff]
    at hName
  rcases hName with ⟨mapped, _, labels, _, hName⟩
  split at hName
  · cases hName
  · split at hName
    · cases hName
    · split at hName
      · cases hName
      · rename_i hAllowed
        rw [Option.bind_eq_some_iff] at hName
        rcases hName with ⟨written, hWritten, hJoin⟩
        cases hJoin
        refine Text.forall_mem_join
          (List.forall_mem_singleton.mpr (by decide)) ?_
        intro part hPart
        rcases Text.mem_of_mapM hWritten part hPart with
          ⟨label, hLabel, hPart⟩
        rw [Bool.not_eq_true, List.any_eq_false] at hAllowed
        exact written?_allowed
          (Bool.eq_false_iff.mpr (hAllowed label hLabel)) hPart

end Domain

end UrlShortener

------------------------------------------------------------
-- Hosts
------------------------------------------------------------

namespace UrlShortener

open Domain (IsAllowed)

theorem Domain.allowed_digitChar :
    ∀ n < 16, IsAllowed n.digitChar := by decide

namespace Ipv4

theorem chars_allowed (address : Nat) :
    ∀ c ∈ chars address, IsAllowed c := by
  refine Text.forall_mem_join
    (List.forall_mem_singleton.mpr (by decide)) ?_
  intro part hPart
  rcases List.mem_map.mp hPart with ⟨unit, _, rfl⟩
  rw [Nat.toString_eq_repr, Nat.toList_repr]
  exact Text.forall_mem_toDigits (by decide)
    (fun n hDigit => Domain.allowed_digitChar n (by omega)) _

theorem chars_ne_nil (address : Nat) : chars address ≠ [] := by
  simp [chars, Text.join]

end Ipv4

namespace Ipv6

/- A character of an address without its brackets. -/
def IsPart (c : Char) : Prop :=
  c = ':' ∨ IsAllowed c

theorem colons_parts (groups : List Nat) :
    ∀ c ∈ colons groups, IsPart c := by
  refine Text.forall_mem_join
    (List.forall_mem_singleton.mpr (.inl rfl)) ?_
  intro part hPart
  rcases List.mem_map.mp hPart with ⟨n, _, rfl⟩
  exact Text.forall_mem_toDigits (by decide)
    (fun m hDigit => .inr (Domain.allowed_digitChar m hDigit)) n

theorem chars_parts (groups : List Nat) :
    ∀ c ∈ chars groups, IsPart c := by
  unfold chars
  dsimp only
  split
  · exact colons_parts groups
  · rw [List.forall_mem_append, List.forall_mem_cons,
      List.forall_mem_cons]
    exact ⟨colons_parts _, .inl rfl, .inl rfl, colons_parts _⟩

end Ipv6

/- The text of a host: a name, or an address in brackets. -/
inductive IsHostText : List Char → Prop where
| plain
    {cs : List Char}
    (hSome : cs ≠ [])
    (hAllowed : ∀ c ∈ cs, IsAllowed c) : IsHostText cs
| bracketed
    {cs : List Char}
    (hParts : ∀ c ∈ cs, Ipv6.IsPart c) :
    IsHostText ('[' :: cs ++ [']'])

namespace Host

variable {cs : List Char} {h : Host}

theorem bracketed_eq_ok
    (hRead : bracketed cs = .ok h) :
    ∃ groups, Ipv6.read? cs.dropLast = some groups ∧
      h = .ipv6 groups := by
  unfold bracketed at hRead
  split at hRead
  · split at hRead
    · rename_i groups hGroups
      cases hRead
      exact ⟨groups, hGroups, rfl⟩
    · cases hRead
  · cases hRead

/- What a host of a special scheme was read as. -/
inductive IsRead (cs : List Char) : Host → Prop where
| ipv6
    {text : List Char}
    {groups : List Nat}
    (hGroups : Ipv6.read? text = some groups) :
    IsRead cs (.ipv6 groups)
| ipv4
    {domain : List Char}
    {address : Nat}
    (hAddress : Ipv4.read? domain = some address) :
    IsRead cs (.ipv4 address)
| name
    {domain : List Char}
    (hName : Domain.toAscii? (unescaped cs) = some domain)
    (hSome : domain ≠ [])
    (hNumber : Ipv4.endsInNumber domain = false) :
    IsRead cs (.name domain)

theorem isRead_of_ofDomain
    (hRead : ofDomain cs = .ok h) : IsRead cs h := by
  unfold ofDomain at hRead
  split at hRead
  · rcases bracketed_eq_ok hRead with ⟨groups, hGroups, rfl⟩
    exact .ipv6 hGroups
  · split at hRead
    · cases hRead
    · cases hRead
    · rename_i domain hSome hName
      split at hRead
      · split at hRead
        · rename_i address hAddress
          cases hRead
          exact .ipv4 hAddress
        · cases hRead
      · rename_i hNumber
        cases hRead
        exact .name hName (fun hNil => hSome hNil)
          (Bool.eq_false_iff.mpr hNumber)

theorem isHostText_ipv6 (groups : List Nat) :
    IsHostText (chars (.ipv6 groups)) :=
  .bracketed (Ipv6.chars_parts groups)

/- Every such host has the text of one. -/
theorem isHostText_of_ofDomain
    (hRead : ofDomain cs = .ok h) : IsHostText h.chars := by
  cases isRead_of_ofDomain hRead with
  | ipv6 => exact isHostText_ipv6 _
  | ipv4 =>
      exact .plain (Ipv4.chars_ne_nil _) (Ipv4.chars_allowed _)
  | name hName hSome =>
      exact .plain hSome (Domain.toAscii?_allowed hName)

end Host

namespace IsHostText

variable {cs : List Char}

theorem not_empty (hText : IsHostText cs) : cs ≠ [] := by
  cases hText with
  | plain hSome => exact hSome
  | bracketed => nofun

/- Its only marks are brackets and colons. -/
theorem marks
    (hText : IsHostText cs) :
    ∀ c ∈ cs, c ∈ "[:]".toList ∨ IsAllowed c := by
  cases hText with
  | plain _ hAllowed =>
      exact fun c hMem => .inr (hAllowed c hMem)
  | bracketed hParts =>
      rw [List.cons_append, List.forall_mem_cons,
        List.forall_mem_append, List.forall_mem_singleton]
      refine ⟨.inl (by decide), ?_, .inl (by decide)⟩
      intro c hMem
      rcases hParts c hMem with rfl | hAllowed
      · exact .inl (by decide)
      · exact .inr hAllowed

/- It ends where a port begins. -/
theorem splitPort
    (hText : IsHostText cs)
    {rest : List Char}
    (hPort : Url.BeginsPort rest) :
    Url.splitPort false (cs ++ rest) = (cs, rest) := by
  have hOther
      {c d : Char}
      (hAllowed : IsAllowed c)
      (hMark : Domain.isForbidden d = true) : c ≠ d := by
    rintro rfl
    rw [hAllowed.2] at hMark
    cases hMark
  cases hText with
  | plain _ hAllowed =>
      refine Url.splitPort_append (fun c hMem => ?_) hPort
      have hChar := hAllowed c hMem
      exact ⟨hOther hChar (by decide), hOther hChar (by decide),
        hOther hChar (by decide)⟩
  | bracketed hParts =>
      refine Url.splitPort_brackets (fun c hMem => ?_) hPort
      rcases hParts c hMem with rfl | hAllowed
      · decide
      · exact ⟨hOther hAllowed (by decide),
          hOther hAllowed (by decide)⟩

end IsHostText

end UrlShortener
