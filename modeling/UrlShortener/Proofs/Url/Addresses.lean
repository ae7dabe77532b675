import Mathlib.Data.Nat.Digits.Defs
import UrlShortener.Proofs.Url.Names

/-
  Addresses that were read are read back from their texts:
  four bytes between dots, and eight groups between colons
  whose longest run of zeros is left out. So is every host
  but names with encoded labels or capitals.

  Key definitions include:
    * `Ipv4.bytes`
    * `Ipv6.IsGroup`
    * `Ipv6.IsRun`

  Main declarations:
    * `Ipv4.read?_chars`
    * `Ipv6.read?_groups`
    * `Ipv6.read?_chars`
    * `Host.readsBack_of_ofDomain`
-/

------------------------------------------------------------
-- Four Bytes
------------------------------------------------------------

namespace UrlShortener

namespace Ipv4

/- The bytes of an address, the first one first. -/
def bytes (address : Nat) : List Nat :=
  [16777216, 65536, 256, 1].map fun unit => address / unit % 256

def byteText (n : Nat) : List Char :=
  (toString n).toList

theorem chars_eq (address : Nat) :
    chars address = Text.join ['.'] ((bytes address).map byteText) :=
  rfl

theorem bytes_lt (address : Nat) :
    ∀ n ∈ bytes address, n < 256 := by
  intro n hMem
  rcases List.mem_map.mp hMem with ⟨unit, _, rfl⟩
  exact Nat.mod_lt _ (by decide)

/- A byte is written in digits that are read as it. -/
theorem number?_byteText {n : Nat} (hByte : n < 256) :
    number? (byteText n) = some n := by
  have hAll : ∀ m < 256, number? (byteText m) = some m := by
    decide +kernel
  exact hAll n hByte

theorem byteText_isNumeral (n : Nat) :
    IsNumeral (byteText n) n :=
  isNumeral_toString n

/- The bytes of an address are found between its dots. -/
theorem split_chars (address : Nat) :
    Text.split '.' (chars address) =
      (bytes address).map byteText := by
  rw [chars_eq]
  refine Text.split_join (by simp [bytes]) ?_
  intro part hPart hMem
  rcases List.mem_map.mp hPart with ⟨n, _, rfl⟩
  exact absurd ((byteText_isNumeral n).digits '.' hMem) (by decide)

theorem getLast?_split_chars (address : Nat) :
    (Text.split '.' (chars address)).getLast? =
      some (byteText (address % 256)) := by
  rw [split_chars, List.getLast?_map]
  simp [bytes]

/- They make up that address. -/
theorem assemble?_bytes
    {address : Nat}
    (hFits : address ≤ maxAddress) :
    assemble? (bytes address) = some address := by
  have hSum :
      ((address / 16777216 % 256 * 256 + address / 65536 % 256)
          * 256 + address / 256 % 256) * 256 + address % 256 =
        address := by
    unfold maxAddress at hFits
    omega
  have hByte (n : Nat) : n % 256 < 256 :=
    Nat.mod_lt n (by decide)
  simp [assemble?, bytes, hByte, hSum]

/- An address is read back from its text. -/
theorem read?_chars
    {address : Nat}
    (hFits : address ≤ maxAddress) :
    read? (chars address) = some address := by
  have hLast :
      ¬ (Text.split '.' (chars address)).getLast? = some [] := by
    rw [getLast?_split_chars, Option.some.injEq]
    exact (byteText_isNumeral _).not_empty
  have hNumbers :
      ((bytes address).map byteText).mapM number? =
        some (bytes address) := by
    rw [List.mapM_map]
    exact Text.mapM_eq_self fun n hMem =>
      number?_byteText (bytes_lt address n hMem)
  have hSmall :
      (bytes address).all (· ≤ maxAddress) = true := by
    rw [List.all_eq_true]
    intro n hMem
    have hByte := bytes_lt address n hMem
    exact decide_eq_true (Nat.le_trans (Nat.le_of_lt hByte)
      (by decide))
  unfold read? parts
  dsimp only
  rw [if_neg hLast, split_chars, hNumbers]
  exact (if_pos hSmall).trans (assemble?_bytes hFits)

theorem endsInNumber_chars (address : Nat) :
    endsInNumber (chars address) = true := by
  have hDigits := byteText_isNumeral (address % 256)
  have hSome :
      ¬ some (byteText (address % 256)) = some [] := by
    rw [Option.some.injEq]
    exact hDigits.not_empty
  have hAll : isDigits (byteText (address % 256)) = true := by
    rw [isDigits, List.isEmpty_eq_false_iff.mpr hDigits.not_empty,
      List.all_eq_true.mpr hDigits.digits]
    rfl
  unfold endsInNumber
  dsimp only
  rw [getLast?_split_chars, if_neg hSome]
  dsimp only
  rw [hAll, Bool.true_or]

/- The text of an address is an ordinary name. -/
theorem chars_ordinary (address : Nat) :
    Domain.IsOrdinary (chars address) where
  allowed := chars_allowed address
  small := by
    refine Text.forall_mem_join
      (List.forall_mem_singleton.mpr (by decide)) ?_
    intro part hPart c hMem
    rcases List.mem_map.mp hPart with ⟨unit, _, rfl⟩
    have hDigit := (byteText_isNumeral _).digits c hMem
    have hAscii := Utf8.ascii_of_isDigit hDigit
    have hAll : c.isDigit = true → c.toLower = c :=
      Utf8.forall_ascii (by decide) hAscii
    exact hAll hDigit
  readable := by
    intro label hLabel
    rw [split_chars] at hLabel
    rcases List.mem_map.mp hLabel with ⟨n, _, rfl⟩
    have hNumeral := byteText_isNumeral n
    rcases List.exists_cons_of_ne_nil hNumeral.not_empty with
      ⟨c, rest, hText⟩
    have hDigit := hNumeral.digits c (by rw [hText]; simp)
    have hMark : ('x' == c) = false := by
      rw [beq_eq_false_iff_ne]
      rintro rfl
      cases hDigit
    rw [hText, Domain.encodedMark, List.isPrefixOf, hMark]
    rfl

/- Bytes make up no more than their places allow. -/
theorem foldl_bytes_lt
    {bs : List Nat}
    (hBytes : ∀ b ∈ bs, b < 256)
    (n : Nat) :
    bs.foldl (fun n b => n * 256 + b) n <
      (n + 1) * 256 ^ bs.length := by
  induction bs generalizing n with
  | nil => simp
  | cons b bs ih =>
      rcases List.forall_mem_cons.mp hBytes with ⟨hByte, hRest⟩
      rw [List.foldl_cons, List.length_cons]
      calc
        _ < (n * 256 + b + 1) * 256 ^ bs.length := ih hRest _
        _ ≤ ((n + 1) * 256) * 256 ^ bs.length :=
          Nat.mul_le_mul_right _ (by omega)
        _ = (n + 1) * 256 ^ (bs.length + 1) := by
          rw [Nat.pow_succ, Nat.mul_assoc, Nat.mul_comm 256]

/- No address that was read is larger than the largest. -/
theorem assemble?_le
    {ns : List Nat}
    {address : Nat}
    (hWhole : assemble? ns = some address) :
    address ≤ maxAddress := by
  unfold assemble? at hWhole
  split at hWhole
  · cases hWhole
  · rename_i last _
    generalize ns.dropLast = bs at hWhole
    dsimp only at hWhole
    split at hWhole
    · rename_i hFits
      cases hWhole
      simp only [Bool.and_eq_true, decide_eq_true_eq,
        List.all_eq_true] at hFits
      rcases hFits with ⟨⟨hFew, hLast⟩, hBytes⟩
      have hFront := foldl_bytes_lt hBytes 0
      rw [Nat.zero_add, Nat.one_mul] at hFront
      have hPlaces :
          256 ^ bs.length * 256 ^ (4 - bs.length) =
            maxAddress + 1 := by
        rw [← Nat.pow_add, Nat.add_sub_cancel' (by omega)]
        decide
      have hAll := Nat.mul_le_mul_right
        (256 ^ (4 - bs.length)) hFront
      rw [Nat.succ_mul, hPlaces] at hAll
      exact Nat.le_of_lt_succ
        (Nat.lt_of_lt_of_le (Nat.add_lt_add_left hLast _) hAll)
    · cases hWhole

theorem read?_le
    {cs : List Char}
    {address : Nat}
    (hRead : read? cs = some address) :
    address ≤ maxAddress := by
  rcases Option.bind_eq_some_iff.mp hRead with ⟨ns, _, hWhole⟩
  split at hWhole
  · exact assemble?_le hWhole
  · cases hWhole

end Ipv4

end UrlShortener

------------------------------------------------------------
-- Groups That Are Read
------------------------------------------------------------

namespace UrlShortener

namespace Ipv6

/- A group of an address. -/
def IsGroup (n : Nat) : Prop := n < 65536

/- A group has no more digits than it may. -/
theorem group_lt
    (most n : Nat)
    (cs : List Char) :
    (group most n cs).1 < (n + 1) * 16 ^ most := by
  fun_induction group most n cs with
  | case1 n cs => simp
  | case2 most n =>
      exact Nat.lt_of_lt_of_le (Nat.lt_succ_self n)
        (Nat.le_mul_of_pos_right _ (Nat.pow_pos (by decide)))
  | case3 most n c rest d hDigit ih =>
      have hSmall := (Percent.value?_bounds hDigit).2
      refine Nat.lt_of_lt_of_le ih ?_
      rw [Nat.pow_succ, Nat.mul_comm (16 ^ most), ← Nat.mul_assoc]
      exact Nat.mul_le_mul_right _ (by omega)
  | case4 most n c rest hOther =>
      exact Nat.lt_of_lt_of_le (Nat.lt_succ_self n)
        (Nat.le_mul_of_pos_right _ (Nat.pow_pos (by decide)))

theorem byte?_lt
    {cs : List Char}
    {n : Nat}
    (hRead : byte? cs = some n) : n < 256 := by
  unfold byte? at hRead
  split at hRead
  · cases hRead
    decide
  · cases hRead
  · split at hRead
    · rcases Option.bind_eq_some_iff.mp hRead with
        ⟨m, _, hByte⟩
      split at hByte
      · cases hByte
        assumption
      · cases hByte
    · cases hRead

theorem dotted?_groups
    {cs : List Char}
    {pair : List Nat}
    (hRead : dotted? cs = some pair) :
    ∀ n ∈ pair, IsGroup n := by
  rcases Option.bind_eq_some_iff.mp hRead with
    ⟨bytes, hBytes, hPair⟩
  have hLt (b : Nat) (hMem : b ∈ bytes) : b < 256 := by
    rcases Text.mem_of_mapM hBytes b hMem with ⟨_, _, hByte⟩
    exact byte?_lt hByte
  split at hPair
  · rename_i a b c d
    cases hPair
    have hA := hLt a (by simp)
    have hB := hLt b (by simp)
    have hC := hLt c (by simp)
    have hD := hLt d (by simp)
    simp only [List.forall_mem_cons, IsGroup]
    exact ⟨by omega, by omega, List.forall_mem_nil _⟩
  · cases hPair

/- Every group that is read is a number of 16 bits. -/
theorem readFrom?_groups
    {fuel : Nat}
    {d out : Draft}
    {cs : List Char}
    (hGroups : ∀ n ∈ d.groups, IsGroup n)
    (hRead : readFrom? fuel d cs = some out) :
    ∀ n ∈ out.groups, IsGroup n := by
  have hMore
      {d : Draft}
      {ns : List Nat}
      (hGroups : ∀ n ∈ d.groups, IsGroup n)
      (hNew : ∀ n ∈ ns, IsGroup n) :
      ∀ n ∈ d.groups ++ ns, IsGroup n :=
    List.forall_mem_append.mpr ⟨hGroups, hNew⟩
  have hGroup
      {n : Nat}
      {cs after : List Char}
      (hFound : group 4 0 cs = (n, after)) :
      ∀ m ∈ [n], IsGroup m := by
    have hLt := group_lt 4 0 cs
    rw [hFound] at hLt
    exact List.forall_mem_singleton.mpr hLt
  fun_induction readFrom? fuel d cs with
  | case1 =>
      cases hRead
      exact hGroups
  | case5 fuel d rest _ _ ih => exact ih hGroups hRead
  | case6 fuel d c rest _ _ n hFound =>
      cases hRead
      exact hMore hGroups (hGroup hFound)
  | case8 fuel d c rest _ _ n tail _ _ =>
      rcases Option.bind_eq_some_iff.mp hRead with
        ⟨pair, hPair, hOut⟩
      cases hOut
      exact hMore hGroups (dotted?_groups hPair)
  | case10 fuel d c rest _ _ n tail _ hFound ih =>
      exact ih (hMore hGroups (hGroup hFound)) hRead
  | case2 | case3 | case4 | case7 | case9 | case11 =>
      cases hRead

/- A finished address has eight groups. -/
theorem finish?_groups
    {d : Draft}
    {groups : List Nat}
    (hGroups : ∀ n ∈ d.groups, IsGroup n)
    (hFinish : d.finish? = some groups) :
    groups.length = 8 ∧ ∀ n ∈ groups, IsGroup n := by
  unfold Draft.finish? at hFinish
  split at hFinish
  · split at hFinish
    · rename_i hEight
      cases hFinish
      exact ⟨hEight, hGroups⟩
    · cases hFinish
  · rename_i front _
    split at hFinish
    · cases hFinish
      constructor
      · simp only [List.length_append, List.length_take,
          List.length_replicate, List.length_drop]
        omega
      · rw [List.forall_mem_append, List.forall_mem_append]
        refine ⟨⟨fun n hMem => hGroups n (List.mem_of_mem_take hMem),
          fun n hMem => ?_⟩,
          fun n hMem => hGroups n (List.mem_of_mem_drop hMem)⟩
        rw [List.eq_of_mem_replicate hMem]
        exact Nat.zero_lt_succ _
    · cases hFinish

theorem read?_groups
    {cs : List Char}
    {groups : List Nat}
    (hRead : read? cs = some groups) :
    groups.length = 8 ∧ ∀ n ∈ groups, IsGroup n := by
  rcases Option.bind_eq_some_iff.mp hRead with
    ⟨d, hDraft, hFinish⟩
  refine finish?_groups ?_ hFinish
  split at hDraft
  · exact readFrom?_groups (List.forall_mem_nil _) hDraft
  · cases hDraft
  · cases hDraft
  · exact readFrom?_groups (List.forall_mem_nil _) hDraft

end Ipv6

end UrlShortener

------------------------------------------------------------
-- Groups That Are Written
------------------------------------------------------------

namespace UrlShortener

namespace Ipv6

variable {n fuel : Nat} {d : Draft} {groups : List Nat}

/- The digits of a number are read as that number. -/
theorem group_toDigits
    (n more : Nat)
    (after : List Char) :
    group ((Nat.toDigits 16 n).length + more) 0
        (Nat.toDigits 16 n ++ after) =
      group more n after := by
  have hDigit :
      ∀ m < 16, Hex.value? m.digitChar = some m := by decide
  induction n using Nat.strongRecOn generalizing more after with
  | ind n ih =>
      rw [Nat.toDigits_eq_if (by decide)]
      split
      · rename_i hSmall
        rw [List.length_singleton, Nat.add_comm,
          List.singleton_append, group, hDigit n hSmall]
        dsimp only
        rw [Nat.mul_zero, Nat.zero_add]
      · rename_i hLarge
        rw [List.length_append, List.length_singleton,
          List.append_assoc, Nat.add_assoc,
          ih (n / 16) (Nat.div_lt_self (by omega) (by decide)),
          Nat.add_comm 1, List.singleton_append, group,
          hDigit _ (Nat.mod_lt n (by decide))]
        dsimp only
        rw [Nat.div_add_mod]

/- A group ends where something else than a digit follows. -/
theorem group_lower
    (hGroup : IsGroup n)
    {after : List Char}
    (hAfter : ∀ c ∈ after.head?, Hex.value? c = none) :
    group 4 0 (Hex.lower n ++ after) = (n, after) := by
  have hStops (more : Nat) : group more n after = (n, after) := by
    cases more with
    | zero => rfl
    | succ more =>
        cases after with
        | nil => rfl
        | cons c after => rw [group, hAfter c rfl]
  have hLength : (Nat.toDigits 16 n).length ≤ 4 :=
    Nat.toDigits_length 16 n 4 (by decide) hGroup
  have hRead := group_toDigits n
    (4 - (Nat.toDigits 16 n).length) after
  rw [Nat.add_sub_cancel' hLength, hStops] at hRead
  exact hRead

/- A group begins with a digit. -/
theorem lower_eq_cons (n : Nat) :
    ∃ c rest, Hex.lower n = c :: rest ∧ c ≠ ':' := by
  have hDigits : ∀ c ∈ Hex.lower n, c ≠ ':' :=
    Text.forall_mem_toDigits (by decide) (by decide) n
  rcases List.exists_cons_of_ne_nil
      (Nat.toDigits_ne_nil (n := n) (b := 16)) with
    ⟨c, rest, hText⟩
  exact ⟨c, rest, hText, hDigits c (by rw [Hex.lower, hText]; simp)⟩

theorem readFrom?_last
    (hGroup : IsGroup n)
    (hRoom : d.places < 8) :
    readFrom? (fuel + 1) d (Hex.lower n) =
      some { d with groups := d.groups ++ [n] } := by
  have hRead : group 4 0 (Hex.lower n ++ []) = (n, []) :=
    group_lower hGroup nofun
  rw [List.append_nil] at hRead
  rcases lower_eq_cons n with ⟨c, rest, hText, hColon⟩
  rw [hText] at hRead ⊢
  rw [readFrom?, if_neg (Nat.not_le.mpr hRoom), if_neg hColon,
    hRead]

theorem readFrom?_next
    (hGroup : IsGroup n)
    (hRoom : d.places < 8)
    {tail : List Char}
    (hTail : tail ≠ []) :
    readFrom? (fuel + 1) d (Hex.lower n ++ ':' :: tail) =
      readFrom? fuel { d with groups := d.groups ++ [n] } tail := by
  have hRead :
      group 4 0 (Hex.lower n ++ ':' :: tail) = (n, ':' :: tail) :=
    group_lower hGroup (by rintro c ⟨⟩; decide)
  rcases lower_eq_cons n with ⟨c, rest, hText, hColon⟩
  rw [hText, List.cons_append] at hRead ⊢
  rw [readFrom?, if_neg (Nat.not_le.mpr hRoom), if_neg hColon,
    hRead]
  exact if_neg (List.isEmpty_iff.not.mpr hTail)

theorem readFrom?_gap
    (hRoom : d.places < 8)
    (hNone : d.gap = none)
    (rest : List Char) :
    readFrom? (fuel + 1) d (':' :: rest) =
      readFrom? fuel { d with gap := some d.groups.length }
        rest := by
  rw [readFrom?, if_neg (Nat.not_le.mpr hRoom), if_pos rfl,
    hNone]
  rfl

theorem colons_singleton (n : Nat) :
    colons [n] = Hex.lower n := by
  simp [colons, Text.join]

theorem colons_cons_cons (n m : Nat) (rest : List Nat) :
    colons (n :: m :: rest) =
      Hex.lower n ++ ':' :: colons (m :: rest) :=
  Text.join_cons_cons _ _ _ _

/- Groups are no fewer than their characters. -/
theorem length_le_colons (groups : List Nat) :
    groups.length ≤ (colons groups).length := by
  have hSome (n : Nat) : 0 < (Hex.lower n).length :=
    List.length_pos_of_ne_nil Nat.toDigits_ne_nil
  match groups with
  | [] => exact Nat.zero_le _
  | [n] =>
      rw [colons_singleton]
      exact hSome n
  | n :: m :: rest =>
      have hFirst := hSome n
      have hRest := length_le_colons (m :: rest)
      simp only [colons_cons_cons, List.length_append,
        List.length_cons] at hRest ⊢
      omega

/- They begin with a digit. -/
theorem colons_eq_cons
    (hSome : groups ≠ []) :
    ∃ c rest, colons groups = c :: rest ∧ c ≠ ':' := by
  match groups with
  | [] => exact absurd rfl hSome
  | [n] =>
      rw [colons_singleton]
      exact lower_eq_cons n
  | n :: m :: others =>
      rcases lower_eq_cons n with ⟨c, rest, hText, hColon⟩
      rw [colons_cons_cons, hText]
      exact ⟨c, _, rfl, hColon⟩

theorem colons_ne_nil
    (hSome : groups ≠ []) : colons groups ≠ [] := by
  rcases colons_eq_cons hSome with ⟨c, rest, hText, _⟩
  rw [hText]
  exact List.cons_ne_nil c rest

/- One more group takes one more place. -/
theorem places_concat (d : Draft) (n : Nat) :
    ({ d with groups := d.groups ++ [n] } : Draft).places =
      d.places + 1 := by
  simp only [Draft.places, List.length_append,
    List.length_singleton]
  omega

/- Groups are read up to the end. -/
theorem readFrom?_colons
    (hSome : groups ≠ [])
    (hGroups : ∀ n ∈ groups, IsGroup n)
    (hRoom : d.places + groups.length ≤ 8)
    (hFuel : groups.length ≤ fuel) :
    readFrom? fuel d (colons groups) =
      some { d with groups := d.groups ++ groups } := by
  induction groups generalizing d fuel with
  | nil => exact absurd rfl hSome
  | cons n groups ih =>
      rcases List.forall_mem_cons.mp hGroups with
        ⟨hFirst, hRest⟩
      rw [List.length_cons] at hRoom hFuel
      obtain ⟨fuel, rfl⟩ : ∃ k, fuel = k + 1 :=
        ⟨fuel - 1, by omega⟩
      cases groups with
      | nil =>
          rw [colons_singleton]
          exact readFrom?_last hFirst (by omega)
      | cons m rest =>
          rw [colons_cons_cons,
            readFrom?_next hFirst (by omega)
              (colons_ne_nil (List.cons_ne_nil m rest)),
            ih (List.cons_ne_nil m rest) hRest
              (by rw [places_concat]; omega) (by omega),
            List.append_assoc]
          rfl

/- Groups in front of a double colon are read up to it. -/
theorem readFrom?_front
    (hSome : groups ≠ [])
    (hGroups : ∀ n ∈ groups, IsGroup n)
    (hRoom : d.places + groups.length ≤ 8)
    (fuel : Nat)
    (rest : List Char) :
    readFrom? (fuel + groups.length) d
        (colons groups ++ ':' :: ':' :: rest) =
      readFrom? fuel { d with groups := d.groups ++ groups }
        (':' :: rest) := by
  induction groups generalizing d with
  | nil => exact absurd rfl hSome
  | cons n groups ih =>
      rcases List.forall_mem_cons.mp hGroups with
        ⟨hFirst, hOthers⟩
      rw [List.length_cons] at hRoom ⊢
      rw [← Nat.add_assoc]
      cases groups with
      | nil =>
          rw [colons_singleton]
          exact readFrom?_next hFirst (by omega)
            (List.cons_ne_nil _ _)
      | cons m others =>
          rw [colons_cons_cons, List.append_assoc,
            List.cons_append,
            readFrom?_next hFirst (by omega)
              (List.append_ne_nil_of_left_ne_nil
                (colons_ne_nil (List.cons_ne_nil m others)) _),
            ih (List.cons_ne_nil m others) hOthers
              (by rw [places_concat]; omega),
            List.append_assoc]
          rfl

/- A text that begins with a group has no double colon there. -/
theorem read?_of_cons
    {c : Char}
    {more : List Char}
    (hColon : c ≠ ':') :
    read? (c :: more) =
      (readFrom? (more.length + 2) ⟨[], none⟩
        (c :: more)).bind Draft.finish? := by
  unfold read?
  split
  · rename_i hText
    cases hText
    exact absurd rfl hColon
  · rename_i hText
    cases hText
    exact absurd rfl hColon
  · rename_i hText
    cases hText
  · rfl

/- Eight groups without a double colon are read back. -/
theorem read?_colons
    (hEight : groups.length = 8)
    (hGroups : ∀ n ∈ groups, IsGroup n) :
    read? (colons groups) = some groups := by
  have hSome : groups ≠ [] := by
    rintro rfl
    cases hEight
  obtain ⟨c, more, hText, hColon⟩ :
      ∃ c more, colons groups = c :: more ∧ c ≠ ':' :=
    colons_eq_cons hSome
  have hLength := length_le_colons groups
  have hRead :
      readFrom? (more.length + 2) ⟨[], none⟩ (colons groups) =
        some ⟨groups, none⟩ := by
    rw [hText, List.length_cons] at hLength
    exact readFrom?_colons hSome hGroups
      (by rw [hEight]; decide) (by omega)
  rw [hText] at hRead ⊢
  rw [read?_of_cons hColon, hRead, Option.bind_some]
  exact if_pos hEight

/- The groups around a double colon are read as a draft. -/
theorem read?_around
    {front back : List Nat}
    (hFront : ∀ n ∈ front, IsGroup n)
    (hBack : ∀ n ∈ back, IsGroup n)
    (hFew : front.length + back.length < 8) :
    read? (colons front ++ ':' :: ':' :: colons back) =
      Draft.finish? ⟨front ++ back, some front.length⟩ := by
  have hRest
      {fuel : Nat}
      (hFuel : back.length ≤ fuel) :
      readFrom? fuel ⟨front, some front.length⟩ (colons back) =
        some ⟨front ++ back, some front.length⟩ := by
    by_cases hSome : back = []
    · subst hSome
      rw [List.append_nil]
      cases fuel <;> rfl
    · refine readFrom?_colons hSome hBack ?_ hFuel
      simp only [Draft.places, Option.isSome_some, if_true]
      omega
  by_cases hSome : front = []
  · subst hSome
    have hFuel := length_le_colons back
    have hRead :
        readFrom? ((colons back).length + 3) ⟨[], some 0⟩
            (colons back) = some ⟨back, some 0⟩ :=
      hRest (by omega)
    exact congrArg (fun d? => d?.bind Draft.finish?) hRead
  · rcases colons_eq_cons hSome with ⟨c, more, hText, hColon⟩
    have hFrontLength := length_le_colons front
    have hBackLength := length_le_colons back
    rw [hText, List.length_cons] at hFrontLength
    obtain ⟨fuel, hFuel, hEnough⟩ :
        ∃ fuel,
          (more ++ ':' :: ':' :: colons back).length + 2 =
              fuel + 1 + front.length ∧
            back.length ≤ fuel := by
      refine ⟨more.length + (colons back).length + 3
        - front.length, ?_, by omega⟩
      simp only [List.length_append, List.length_cons]
      omega
    have hRoom : (Draft.mk front none).places < 8 := by
      change front.length + 0 < 8
      omega
    have hRead :
        readFrom? (fuel + 1 + front.length) ⟨[], none⟩
            (colons front ++ ':' :: ':' :: colons back) =
          some ⟨front ++ back, some front.length⟩ := by
      rw [readFrom?_front hSome hFront
        (by change 0 + 0 + front.length ≤ 8; omega)]
      change readFrom? (fuel + 1) ⟨front, none⟩ _ = _
      rw [readFrom?_gap hRoom rfl]
      exact hRest hEnough
    rw [hText, List.cons_append] at hRead ⊢
    rw [read?_of_cons hColon, hFuel, hRead]
    rfl

/- A run of zeros in a list. -/
def IsRun (groups : List Nat) (run : Nat × Nat) : Prop :=
  (groups.drop run.1).take run.2 = List.replicate run.2 0 ∧
    run.1 + run.2 ≤ groups.length

theorem isRun_zeros
    {i : Nat}
    (hInside : i < groups.length) :
    IsRun groups (i, zeros (groups.drop i)) := by
  have hPrefix :=
    List.takeWhile_prefix (l := groups.drop i) (· == 0)
  have hLength := hPrefix.length_le
  rw [List.length_drop] at hLength
  constructor
  · rw [zeros, ← List.prefix_iff_eq_take.mp hPrefix,
      List.eq_replicate_iff]
    refine ⟨rfl, fun n hMem => ?_⟩
    have hZero := List.all_eq_true.mp List.all_takeWhile n hMem
    exact eq_of_beq hZero
  · change i + (List.takeWhile _ _).length ≤ _
    omega

/- What is left out of a text is a run of zeros. -/
theorem isRun_longestZeros (groups : List Nat) :
    IsRun groups (longestZeros groups) := by
  unfold longestZeros
  refine List.foldlRecOn _ _ ?_ ?_
  · exact ⟨rfl, Nat.zero_le _⟩
  · intro best hBest i hMem
    dsimp only
    split
    · exact isRun_zeros (List.mem_range.mp hMem)
    · exact hBest

/- Eight groups are read back from their text. -/
theorem read?_chars
    (hEight : groups.length = 8)
    (hGroups : ∀ n ∈ groups, IsGroup n) :
    read? (chars groups) = some groups := by
  rcases isRun_longestZeros groups with ⟨hZeros, hInside⟩
  unfold chars
  generalize longestZeros groups = run at hZeros hInside
  rcases run with ⟨start, length⟩
  dsimp only at hZeros hInside ⊢
  split
  · exact read?_colons hEight hGroups
  · rename_i hLong
    have hFront : (groups.take start).length = start := by
      rw [List.length_take]
      omega
    have hBack :
        (groups.drop (start + length)).length =
          8 - (start + length) := by
      rw [List.length_drop, hEight]
    have hWhole :
        groups.take start ++ List.replicate length 0 ++
          groups.drop (start + length) = groups := by
      rw [← hZeros, List.append_assoc, ← List.drop_drop,
        List.take_append_drop, List.take_append_drop]
    rw [read?_around
      (fun n hMem => hGroups n (List.mem_of_mem_take hMem))
      (fun n hMem => hGroups n (List.mem_of_mem_drop hMem))
      (by omega)]
    unfold Draft.finish?
    dsimp only
    have hGap : 8 - (start + (8 - (start + length))) = length := by
      omega
    rw [hFront, List.length_append, hFront, hBack,
      if_pos (by omega), hGap, List.take_left' hFront,
      List.drop_left' hFront, hWhole]

end Ipv6

end UrlShortener

------------------------------------------------------------
-- Hosts That Are Read Back
------------------------------------------------------------

namespace UrlShortener

namespace Host

variable {cs given : List Char} {h : Host}

theorem readsBack_ipv4
    {address : Nat}
    (hFits : address ≤ Ipv4.maxAddress) :
    ReadsBack (.ipv4 address) := by
  refine (ofDomain_of_ordinary (Ipv4.chars_ordinary address)
    (Ipv4.chars_ne_nil address)).trans ?_
  rw [Ipv4.endsInNumber_chars, if_pos rfl,
    Ipv4.read?_chars hFits]

theorem readsBack_ipv6
    {groups : List Nat}
    (hEight : groups.length = 8)
    (hGroups : ∀ n ∈ groups, Ipv6.IsGroup n) :
    ReadsBack (.ipv6 groups) := by
  have hLast : (Ipv6.chars groups ++ [']']).getLast? = some ']' :=
    List.getLast?_concat
  change bracketed (Ipv6.chars groups ++ [']']) = _
  unfold bracketed
  rw [if_pos hLast, List.dropLast_concat,
    Ipv6.read?_chars hEight hGroups]

/-
  Every host is read back, unless it is a name with capitals
  or encoded labels.
-/
theorem readsBack_of_ofDomain
    (hRead : ofDomain given = .ok h)
    (hName : ∀ name, h = .name name → Domain.IsOrdinary name) :
    h.ReadsBack := by
  cases isRead_of_ofDomain hRead with
  | ipv6 hGroups =>
      rcases Ipv6.read?_groups hGroups with ⟨hEight, hAll⟩
      exact readsBack_ipv6 hEight hAll
  | ipv4 hAddress =>
      exact readsBack_ipv4 (Ipv4.read?_le hAddress)
  | name hDomain hSome hNumber =>
      exact readsBack_of_ordinary (hName _ rfl) hSome hNumber

end Host

end UrlShortener
