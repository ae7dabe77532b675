import UrlShortener.App.Startup
import UrlShortener.Proofs.Settings.Loading

/-
  Addresses to listen on. The reader accepts the texts of one
  grammar: four numbers with points between them, or groups
  in brackets, and a port. Every such text has a colon, so no
  address is refused by the check of the settings; but a text
  with a colon need not be an address, and then the settings
  are valid and the service does not start.

  Key definitions include:
    * `SocketAddress.Numeral`
    * `SocketAddress.Quad`
    * `SocketAddress.Groups`
    * `SocketAddress.AllGroups`
    * `SocketAddress.Denotes`

  Main declarations:
    * `SocketAddress.number?_eq_some_iff`
    * `SocketAddress.parts?_eq_some_iff`
    * `SocketAddress.groups_append`
    * `SocketAddress.read?_eq_some_iff`
    * `Startup.starts_at_addresses_only`
-/

------------------------------------------------------------
-- Numerals
------------------------------------------------------------

namespace UrlShortener

namespace SocketAddress

/- Digits of a base, of a fitting form, and their number. -/
structure Numeral
    (base most : Nat)
    (fits : List Char → Bool)
    (digits : List Char)
    (n : Nat) : Prop where
  not_empty : digits ≠ []
  all_digits : ∀ c ∈ digits, isDigit base c = true
  form : fits digits = true
  value_eq : value base digits = n
  le_most : n ≤ most

/- A text that does not begin with a digit of a base. -/
def Stops (base : Nat) (rest : List Char) : Prop :=
  ∀ c ∈ rest.head?, isDigit base c = false

variable {base most n : Nat} {fits : List Char → Bool}
variable {c mark : Char} {cs rest : List Char}

/- The digits of a small base are digits of a larger one. -/
theorem isDigit_mono
    (larger : Nat)
    (hLe : base ≤ larger)
    (hDigit : isDigit base c = true) :
    isDigit larger c = true := by
  unfold isDigit digit? at hDigit ⊢
  cases hValue : Hex.value? c with
  | none =>
      rw [hValue] at hDigit
      cases hDigit
  | some d =>
      rw [hValue] at hDigit
      simp only [Option.filter_some, Option.isSome_ite,
        decide_eq_true_eq] at hDigit ⊢
      exact Nat.lt_of_lt_of_le hDigit hLe

theorem Stops.mono
    {smaller : Nat}
    (hStops : Stops base rest)
    (hLe : smaller ≤ base) : Stops smaller rest := by
  intro c hHead
  rw [← Bool.not_eq_true]
  intro hDigit
  have hLarger := isDigit_mono base hLe hDigit
  rw [hStops c hHead] at hLarger
  cases hLarger

/- No digit is taken of a text that does not begin with one. -/
theorem Stops.takeWhile_eq_nil
    (hStops : Stops base rest) :
    rest.takeWhile (isDigit base) = [] := by
  cases rest with
  | nil => rfl
  | cons c rest =>
      exact List.takeWhile_cons_of_neg
        (Bool.eq_false_iff.mp (hStops c rfl))

/- A number is read as far as its digits go. -/
theorem number?_eq_some_iff :
    number? base most fits cs = some (n, rest) ↔
      ∃ digits, cs = digits ++ rest ∧
        Numeral base most fits digits n ∧ Stops base rest := by
  constructor
  · intro hRead
    unfold number? at hRead
    dsimp only at hRead
    split at hRead
    · rename_i hFits
      cases hRead
      simp only [Bool.and_eq_true, decide_eq_true_eq,
        Bool.not_eq_true', List.isEmpty_eq_false_iff] at hFits
      rcases hFits with ⟨⟨hSome, hForm⟩, hLe⟩
      refine ⟨cs.takeWhile (isDigit base),
        List.takeWhile_append_dropWhile.symm,
        ⟨hSome, fun c hMem => List.mem_takeWhile_imp hMem,
          hForm, rfl, hLe⟩, ?_⟩
      intro c hHead
      have hNot := List.head?_dropWhile_not (isDigit base) cs
      rw [hHead] at hNot
      exact hNot
    · cases hRead
  · rintro ⟨digits, rfl, hNumeral, hStops⟩
    rcases hNumeral with ⟨hSome, hDigits, hForm, rfl, hLe⟩
    unfold number?
    rw [List.takeWhile_append_of_pos hDigits,
      List.dropWhile_append_of_pos hDigits,
      hStops.takeWhile_eq_nil, Text.dropWhile_eq_self hStops,
      List.append_nil]
    dsimp only
    rw [if_pos]
    simp [hSome, hForm, hLe]

/- A mark is passed where it stands. -/
theorem mark?_eq_some_iff :
    mark? mark cs = some rest ↔ cs = mark :: rest := by
  unfold mark?
  split
  · split
    · rename_i hMark
      rw [Option.some.injEq, hMark, List.cons.injEq]
      exact (and_iff_right rfl).symm
    · rename_i hOther
      exact iff_of_false nofun fun hSame =>
        hOther (List.cons.inj hSame).1
  · exact iff_of_false nofun nofun

/- A port, with the colon in front of it. -/
theorem port?_eq_some_iff :
    port? cs = some n ↔
      ∃ digits, cs = ':' :: digits ∧
        Numeral 10 65535 (fun _ => true) digits n := by
  simp only [port?, Option.bind_eq_bind,
    Option.bind_eq_some_iff, mark?_eq_some_iff, Prod.exists,
    number?_eq_some_iff]
  constructor
  · rintro ⟨after, rfl, m, rest, ⟨digits, rfl, hNumeral, _⟩,
      hEnd⟩
    split at hEnd
    · rename_i hEmpty
      cases hEnd
      rw [List.isEmpty_iff.mp hEmpty, List.append_nil]
      exact ⟨digits, rfl, hNumeral⟩
    · cases hEnd
  · rintro ⟨digits, rfl, hNumeral⟩
    exact ⟨digits, rfl, n, [],
      ⟨digits, (List.append_nil digits).symm, hNumeral, nofun⟩,
      rfl⟩

end SocketAddress

end UrlShortener

------------------------------------------------------------
-- Four Parts
------------------------------------------------------------

namespace UrlShortener

namespace SocketAddress

/- A number of up to 255, without zeros in front. -/
def Part : List Char → Nat → Prop :=
  Numeral 10 255 isPlainPart

/- Four parts with points between them. -/
inductive Quad : List Char → List Nat → Prop where
| points
    {ta tb tc td : List Char}
    {a b c d : Nat}
    (hA : Part ta a)
    (hB : Part tb b)
    (hC : Part tc c)
    (hD : Part td d) :
    Quad (ta ++ '.' :: (tb ++ '.' :: (tc ++ '.' :: td)))
      [a, b, c, d]

variable {cs rest : List Char} {parts : List Nat}

theorem stops_point
    {base : Nat}
    (rest : List Char) : Stops base ('.' :: rest) := by
  rintro c hHead
  cases hHead
  rfl

/- Four parts are read as they are written. -/
theorem parts?_eq_some_iff :
    parts? cs = some (parts, rest) ↔
      ∃ text, cs = text ++ rest ∧ Quad text parts ∧
        Stops 10 rest := by
  simp only [parts?, Option.bind_eq_bind,
    Option.bind_eq_some_iff, mark?_eq_some_iff, Prod.exists,
    number?_eq_some_iff]
  constructor
  · rintro ⟨a, _, ⟨ta, rfl, hA, _⟩, _, rfl,
      b, _, ⟨tb, rfl, hB, _⟩, _, rfl,
      c, _, ⟨tc, rfl, hC, _⟩, _, rfl,
      d, _, ⟨td, rfl, hD, hStops⟩, hSame⟩
    cases hSame
    refine ⟨_, ?_, .points hA hB hC hD, hStops⟩
    simp only [List.append_assoc, List.cons_append]
  · rintro ⟨text, rfl, hQuad, hStops⟩
    cases hQuad with
    | @points ta tb tc td a b c d hA hB hC hD =>
        simp only [List.append_assoc, List.cons_append]
        exact ⟨a, _, ⟨ta, rfl, hA, stops_point _⟩, _, rfl,
          b, _, ⟨tb, rfl, hB, stops_point _⟩, _, rfl,
          c, _, ⟨tc, rfl, hC, stops_point _⟩, _, rfl,
          d, _, ⟨td, rfl, hD, hStops⟩, rfl⟩

/- Four parts begin with a digit and have a point after digits. -/
theorem Quad.exists_point
    {text : List Char}
    (hQuad : Quad text parts) :
    ∃ digits after, text = digits ++ '.' :: after ∧
      digits ≠ [] ∧ ∀ c ∈ digits, isDigit 10 c = true := by
  cases hQuad with
  | points hA hB hC hD =>
      exact ⟨_, _, rfl, hA.not_empty, hA.all_digits⟩

end SocketAddress

end UrlShortener

------------------------------------------------------------
-- Groups
------------------------------------------------------------

namespace UrlShortener

namespace SocketAddress

/- A number of up to four hexadecimal digits. -/
def Group : List Char → Nat → Prop :=
  Numeral 16 65535 fun digits => digits.length ≤ 4

/- A text behind a colon, unless it is the first. -/
def lead (first : Bool) (text : List Char) : List Char :=
  if first then text else ':' :: text

/-
  Groups with colons between them, of which four parts may
  end the list and count as two. The first flag tells whether
  no colon stands in front, the second whether parts end the
  list.
-/
inductive Groups : Bool → Bool → List Char → List Nat → Prop where
| none (first : Bool) : Groups first false [] []
| quad
    (first : Bool)
    {text : List Char}
    {parts : List Nat}
    (hQuad : Quad text parts) :
    Groups first true (lead first text) (groupsOfParts parts)
| more
    (first : Bool)
    {ended : Bool}
    {text rest : List Char}
    {g : Nat}
    {gs : List Nat}
    (hGroup : Group text g)
    (hRest : Groups false ended rest gs) :
    Groups first ended (lead first text ++ rest) (g :: gs)

/- A text that goes on with neither a group nor parts. -/
structure Closes (rest : List Char) : Prop where
  head : ∀ c ∈ rest.head?, isDigit 16 c = false ∧ c ≠ '.'
  colon : ∀ after, rest = ':' :: after → Stops 16 after

variable {first ended : Bool} {left g n : Nat}
variable {text cs rest after : List Char}
variable {parts gs : List Nat}

theorem lead_append :
    lead first text ++ rest = lead first (text ++ rest) := by
  cases first with
  | true => rfl
  | false => rfl

theorem afterColon?_eq_some_iff :
    afterColon? first cs = some after ↔
      cs = lead first after := by
  cases first with
  | true => exact Option.some_inj
  | false => exact mark?_eq_some_iff

theorem group?_eq_some_iff :
    group? cs = some (g, rest) ↔
      ∃ text, cs = text ++ rest ∧ Group text g ∧
        Stops 16 rest :=
  number?_eq_some_iff

/- A text that stops at once has no digits in front. -/
theorem Stops.ne_append
    {base : Nat}
    {digits : List Char}
    (hStops : Stops base cs)
    (hSome : digits ≠ [])
    (hDigits : ∀ c ∈ digits, isDigit base c = true) :
    cs ≠ digits ++ rest := by
  rintro rfl
  rcases List.exists_cons_of_ne_nil hSome with ⟨c, more, rfl⟩
  have hNot := hStops c rfl
  rw [hDigits c List.mem_cons_self] at hNot
  cases hNot

/- Then it begins with neither parts nor a group. -/
theorem Stops.parts?_eq_none
    (hStops : Stops 10 cs) : parts? cs = none := by
  rw [Option.eq_none_iff_forall_ne_some]
  rintro ⟨parts, rest⟩ hParts
  rcases parts?_eq_some_iff.mp hParts with
    ⟨text, rfl, hQuad, _⟩
  rcases hQuad.exists_point with
    ⟨digits, after, rfl, hSome, hDigits⟩
  rw [List.append_assoc] at hStops
  exact hStops.ne_append hSome hDigits rfl

theorem Stops.group?_eq_none
    (hStops : Stops 16 cs) : group? cs = none := by
  rw [Option.eq_none_iff_forall_ne_some]
  rintro ⟨g, rest⟩ hGroup
  rcases group?_eq_some_iff.mp hGroup with ⟨text, rfl, hText, _⟩
  exact hStops.ne_append hText.not_empty hText.all_digits rfl

/- A group is not the first of four parts without a point. -/
theorem parts?_eq_none_of_group
    (hGroup : Group text g)
    (hHead :
      ∀ c ∈ after.head?, isDigit 16 c = false ∧ c ≠ '.') :
    parts? (text ++ after) = none := by
  rw [Option.eq_none_iff_forall_ne_some]
  rintro ⟨parts, rest⟩ hParts
  rcases parts?_eq_some_iff.mp hParts with
    ⟨quad, hSame, hQuad, _⟩
  rcases hQuad.exists_point with
    ⟨digits, behind, rfl, _, hDigits⟩
  rw [List.append_assoc, List.cons_append] at hSame
  rcases List.append_eq_append_iff.mp hSame with
    ⟨more, rfl, hAfter⟩ | ⟨more, rfl, hPoint⟩
  · -- The digits go on behind the group, or the point does.
    cases more with
    | nil => exact (hHead '.' (hAfter ▸ rfl)).2 rfl
    | cons c more =>
        have hDigit :=
          isDigit_mono 16 (by decide)
            (hDigits c (List.mem_append_right _
              List.mem_cons_self))
        rw [(hHead c (hAfter ▸ rfl)).1] at hDigit
        cases hDigit
  · -- Otherwise the point is within the group, or behind it.
    cases more with
    | nil =>
        rw [List.nil_append] at hPoint
        exact (hHead '.' (hPoint ▸ rfl)).2 rfl
    | cons c more =>
        rw [List.cons_append] at hPoint
        rw [← (List.cons.inj hPoint).1] at hGroup
        have hDigit :=
          hGroup.all_digits '.'
            (List.mem_append_right _ List.mem_cons_self)
        cases hDigit

/- What closes a list of groups is not its next item. -/
theorem Closes.stops
    (hCloses : Closes rest)
    (hAfter : afterColon? first rest = some after) :
    Stops 16 after := by
  rw [afterColon?_eq_some_iff] at hAfter
  subst hAfter
  cases first with
  | true => exact fun c hHead => (hCloses.head c hHead).1
  | false => exact hCloses.colon after rfl

/- Behind a group stands a colon, or what closes the list. -/
theorem Groups.head_append
    (hGroups : Groups false ended text gs)
    (hCloses : Closes rest) :
    ∀ c ∈ (text ++ rest).head?,
      isDigit 16 c = false ∧ c ≠ '.' := by
  cases hGroups with
  | none => exact hCloses.head
  | quad hQuad =>
      rintro c hHead
      cases hHead
      exact ⟨rfl, by decide⟩
  | more hGroup hRest =>
      rintro c hHead
      cases hHead
      exact ⟨rfl, by decide⟩

/- What is read as groups are groups. -/
theorem groups_sound
    (hRead : groups left first cs = (gs, ended, rest)) :
    ∃ text, cs = text ++ rest ∧
      Groups first ended text gs ∧ gs.length ≤ left := by
  induction left generalizing first cs gs ended rest with
  | zero =>
      cases hRead
      exact ⟨[], rfl, .none first, Nat.le_refl 0⟩
  | succ left ih =>
      rw [groups] at hRead
      dsimp only at hRead
      split at hRead
      · rename_i parts after hParts
        cases hRead
        split at hParts
        · cases hParts
        · rename_i hTwo
          rcases Option.bind_eq_some_iff.mp hParts with
            ⟨behind, hColon, hQuad⟩
          rcases parts?_eq_some_iff.mp hQuad with
            ⟨text, rfl, hText, _⟩
          rw [afterColon?_eq_some_iff] at hColon
          refine ⟨lead first text, ?_, .quad first hText, ?_⟩
          · rw [hColon, lead_append]
          · cases hText with
            | points =>
                exact Nat.succ_le_succ
                  (Nat.pos_of_ne_zero hTwo)
      · split at hRead
        · cases hRead
          exact ⟨[], rfl, .none first, Nat.zero_le _⟩
        · rename_i g after hGroup
          rcases Option.bind_eq_some_iff.mp hGroup with
            ⟨behind, hColon, hGroup⟩
          rcases group?_eq_some_iff.mp hGroup with
            ⟨text, rfl, hText, _⟩
          rw [afterColon?_eq_some_iff] at hColon
          cases hMore : groups left false after with
          | mk gs' more =>
              rcases more with ⟨ended', rest'⟩
              rw [hMore] at hRead
              cases hRead
              rcases ih hMore with ⟨texts, rfl, hTexts, hLe⟩
              refine ⟨lead first text ++ texts, ?_,
                .more first hText hTexts,
                Nat.succ_le_succ hLe⟩
              rw [hColon, lead_append, lead_append,
                List.append_assoc]

/- Groups are read up to what closes them. -/
theorem groups_append
    (hGroups : Groups first ended text gs)
    (hLe : gs.length ≤ left)
    (hCloses : Closes rest) :
    groups left first (text ++ rest) = (gs, ended, rest) := by
  induction hGroups generalizing left with
  | none first =>
      cases left with
      | zero => rfl
      | succ left =>
          have hNone :
              (afterColon? first rest).bind parts? = none ∧
                (afterColon? first rest).bind group? =
                  none := by
            cases hAfter : afterColon? first rest with
            | none => exact ⟨rfl, rfl⟩
            | some after =>
                have hStops := hCloses.stops hAfter
                exact ⟨(hStops.mono (by decide)).parts?_eq_none,
                  hStops.group?_eq_none⟩
          rw [List.nil_append, groups, hNone.1, hNone.2, ite_self]
  | @quad first text parts hQuad =>
      have hStops : Stops 10 rest := by
        have hHex : Stops 16 rest :=
          fun c hHead => (hCloses.head c hHead).1
        exact hHex.mono (by decide)
      have hParts :
          (afterColon? first (lead first text ++ rest)).bind
            parts? = some (parts, rest) := by
        rw [lead_append, afterColon?_eq_some_iff.mpr rfl,
          Option.bind_some]
        exact parts?_eq_some_iff.mpr ⟨text, rfl, hQuad, hStops⟩
      cases left with
      | zero =>
          cases hQuad with
          | points => cases hLe
      | succ left =>
          have hTwo : left ≠ 0 := by
            cases hQuad with
            | points =>
                exact Nat.ne_of_gt (Nat.le_of_succ_le_succ hLe)
          rw [groups, if_neg hTwo, hParts]
  | @more first ended text more g gs hGroup hMore ih =>
      cases left with
      | zero => cases hLe
      | succ left =>
          have hHead := hMore.head_append hCloses
          have hAfter :
              afterColon? first
                  (lead first text ++ more ++ rest) =
                some (text ++ (more ++ rest)) := by
            rw [lead_append, lead_append, List.append_assoc]
            exact afterColon?_eq_some_iff.mpr rfl
          have hNone :
              parts? (text ++ (more ++ rest)) = none :=
            parts?_eq_none_of_group hGroup hHead
          have hSome :
              group? (text ++ (more ++ rest)) =
                some (g, more ++ rest) :=
            group?_eq_some_iff.mpr ⟨text, rfl, hGroup,
              fun c hFirst => (hHead c hFirst).1⟩
          rw [groups, hAfter, Option.bind_some, hNone, ite_self]
          dsimp only
          rw [Option.bind_some, hSome]
          dsimp only
          rw [ih (Nat.le_of_succ_le_succ hLe)]

end SocketAddress

end UrlShortener

------------------------------------------------------------
-- Addresses
------------------------------------------------------------

namespace UrlShortener

namespace SocketAddress

/-
  Eight groups, or two lists of at most seven groups together
  and two colons for the zeros between them.
-/
inductive AllGroups : List Char → List Nat → Prop where
| full
    {ended : Bool}
    {text : List Char}
    {gs : List Nat}
    (hGroups : Groups true ended text gs)
    (hLength : gs.length = 8) : AllGroups text gs
| gap
    {ended : Bool}
    {before behind : List Char}
    {hs ts : List Nat}
    (hHead : Groups true false before hs)
    (hTail : Groups true ended behind ts)
    (hLength : hs.length + ts.length ≤ 7) :
    AllGroups (before ++ ':' :: ':' :: behind)
      (hs ++ List.replicate (8 - hs.length - ts.length) 0
        ++ ts)

/- A zone behind its mark; none is zero. -/
inductive Zone : List Char → Nat → Prop where
| none : Zone [] 0
| given
    {digits : List Char}
    {n : Nat}
    (hDigits :
      Numeral 10 4294967295 (fun _ => true) digits n) :
    Zone ('%' :: digits) n

/- The texts of addresses. -/
inductive Denotes : List Char → SocketAddress → Prop where
| short
    {text digits : List Char}
    {parts : List Nat}
    {port : Nat}
    (hParts : Quad text parts)
    (hPort : Numeral 10 65535 (fun _ => true) digits port) :
    Denotes (text ++ ':' :: digits) (.short parts port)
| long
    {text zoneText digits : List Char}
    {groups : List Nat}
    {zone port : Nat}
    (hGroups : AllGroups text groups)
    (hZone : Zone zoneText zone)
    (hPort : Numeral 10 65535 (fun _ => true) digits port) :
    Denotes
      ('[' :: (text ++ (zoneText ++ ']' :: ':' :: digits)))
      (.long groups zone port)

variable {zone : Nat} {address : SocketAddress}
variable {text zoneText cs rest after : List Char}
variable {gs : List Nat}

/- Two colons close a list of groups. -/
theorem closes_colons : Closes (':' :: ':' :: after) := by
  constructor
  · rintro c hHead
    cases hHead
    exact ⟨rfl, by decide⟩
  · rintro after hSame
    cases hSame
    rintro c hHead
    cases hHead
    rfl

/- So does a zone or the closing bracket. -/
theorem Zone.closes
    (hZone : Zone zoneText zone) :
    Closes (zoneText ++ ']' :: after) := by
  cases hZone with
  | none =>
      refine ⟨?_, nofun⟩
      rintro c hHead
      cases hHead
      exact ⟨rfl, by decide⟩
  | given hDigits =>
      refine ⟨?_, nofun⟩
      rintro c hHead
      cases hHead
      exact ⟨rfl, by decide⟩

/- What is read as all groups is written so. -/
theorem allGroups?_sound
    (hRead : allGroups? cs = some (gs, rest)) :
    ∃ text, cs = text ++ rest ∧ AllGroups text gs := by
  unfold allGroups? at hRead
  cases hHead : groups 8 true cs with
  | mk hs more =>
      rcases more with ⟨ended, after⟩
      rw [hHead] at hRead
      dsimp only at hRead
      rcases groups_sound hHead with
        ⟨before, rfl, hBefore, hLe⟩
      split at hRead
      · rename_i hLength
        cases hRead
        exact ⟨before, rfl, .full hBefore hLength⟩
      · rename_i hFewer
        cases ended with
        | true => cases hRead
        | false =>
            simp only [Bool.false_eq_true, if_false,
              Option.bind_eq_bind, Option.bind_eq_some_iff,
              mark?_eq_some_iff] at hRead
            rcases hRead with ⟨_, rfl, behind, rfl, hRead⟩
            cases hTail : groups (7 - hs.length) true behind with
            | mk ts more =>
                rcases more with ⟨ended, after⟩
                rw [hTail] at hRead
                cases hRead
                rcases groups_sound hTail with
                  ⟨behind, rfl, hBehind, hRest⟩
                have hSum : hs.length + ts.length ≤ 7 := by
                  have hTs : ts.length ≤ 7 - hs.length := hRest
                  omega
                refine ⟨before ++ ':' :: ':' :: behind, ?_,
                  .gap hBefore hBehind hSum⟩
                rw [List.append_assoc]
                rfl

/- All groups are read up to what closes them. -/
theorem allGroups?_append
    (hGroups : AllGroups text gs)
    (hCloses : Closes rest) :
    allGroups? (text ++ rest) = some (gs, rest) := by
  unfold allGroups?
  cases hGroups with
  | full hGroups hLength =>
      rw [groups_append hGroups (Nat.le_of_eq hLength) hCloses]
      dsimp only
      rw [if_pos hLength]
  | @gap ended before behind hs ts hHead hTail hLength =>
      have hFewer : ¬ hs.length = 8 := by omega
      rw [List.append_assoc, List.cons_append, List.cons_append,
        groups_append hHead (by omega) closes_colons]
      dsimp only
      rw [if_neg hFewer]
      have hRest :
          groups (7 - hs.length) true (behind ++ rest) =
            (ts, ended, rest) :=
        groups_append hTail (by omega) hCloses
      simp only [Bool.false_eq_true, if_false, mark?, if_true,
        Option.bind_eq_bind, Option.bind_some, hRest]

/- What is read as a zone is written so. -/
theorem zone?_sound
    (hRead : zone? cs = some (zone, rest)) :
    ∃ text, cs = text ++ rest ∧ Zone text zone := by
  unfold zone? at hRead
  split at hRead
  · rcases number?_eq_some_iff.mp hRead with
      ⟨digits, rfl, hDigits, _⟩
    exact ⟨'%' :: digits, rfl, .given hDigits⟩
  · cases hRead
    exact ⟨[], rfl, .none⟩

/- A zone is read up to the closing bracket. -/
theorem zone?_append
    (hZone : Zone zoneText zone) :
    zone? (zoneText ++ ']' :: after) =
      some (zone, ']' :: after) := by
  cases hZone with
  | none => rfl
  | given hDigits =>
      refine number?_eq_some_iff.mpr ⟨_, rfl, hDigits, ?_⟩
      rintro c hHead
      cases hHead
      rfl

theorem short?_eq_some_iff :
    short? cs = some address ↔
      ∃ text digits parts port, cs = text ++ ':' :: digits ∧
        Quad text parts ∧
        Numeral 10 65535 (fun _ => true) digits port ∧
        address = .short parts port := by
  simp only [short?, Option.bind_eq_bind,
    Option.bind_eq_some_iff, Prod.exists, parts?_eq_some_iff,
    port?_eq_some_iff]
  constructor
  · rintro ⟨parts, _, ⟨text, rfl, hParts, _⟩, port,
      ⟨digits, rfl, hPort⟩, hSame⟩
    cases hSame
    exact ⟨text, digits, parts, port, rfl, hParts, hPort, rfl⟩
  · rintro ⟨text, digits, parts, port, rfl, hParts, hPort, rfl⟩
    refine ⟨parts, _, ⟨text, rfl, hParts, ?_⟩, port,
      ⟨digits, rfl, hPort⟩, rfl⟩
    rintro c hHead
    cases hHead
    rfl

/- A bracket begins no parts. -/
theorem short?_bracket : short? ('[' :: after) = none := by
  have hStops : Stops 10 ('[' :: after) := by
    rintro c hHead
    cases hHead
    rfl
  unfold short?
  rw [hStops.parts?_eq_none]
  rfl

theorem long?_eq_some_iff :
    long? cs = some address ↔
      ∃ text zoneText digits groups zone port,
        cs =
          '[' :: (text ++ (zoneText ++ ']' :: ':' :: digits)) ∧
        AllGroups text groups ∧ Zone zoneText zone ∧
        Numeral 10 65535 (fun _ => true) digits port ∧
        address = .long groups zone port := by
  simp only [long?, Option.bind_eq_bind,
    Option.bind_eq_some_iff, Prod.exists, mark?_eq_some_iff,
    port?_eq_some_iff]
  constructor
  · rintro ⟨_, rfl, groups, _, hGroups, zone, _, hZone, _, rfl,
      port, ⟨digits, rfl, hPort⟩, hSame⟩
    cases hSame
    rcases allGroups?_sound hGroups with ⟨text, rfl, hText⟩
    rcases zone?_sound hZone with ⟨zoneText, rfl, hZoneText⟩
    exact ⟨text, zoneText, digits, groups, zone, port, rfl,
      hText, hZoneText, hPort, rfl⟩
  · rintro ⟨text, zoneText, digits, groups, zone, port, rfl,
      hGroups, hZone, hPort, rfl⟩
    exact ⟨_, rfl, groups, _,
      allGroups?_append hGroups hZone.closes, zone, _,
      zone?_append hZone, _, rfl, port, ⟨digits, rfl, hPort⟩,
      rfl⟩

/- A text is read as an address just when it is that of one. -/
theorem read?_eq_some_iff
    {s : String} :
    read? s = some address ↔ Denotes s.toList address := by
  unfold read?
  generalize s.toList = cs
  constructor
  · intro hRead
    cases hShort : short? cs with
    | some found =>
        rw [hShort] at hRead
        cases hRead
        rcases short?_eq_some_iff.mp hShort with
          ⟨text, digits, parts, port, rfl, hParts, hPort, rfl⟩
        exact .short hParts hPort
    | none =>
        rw [hShort] at hRead
        rcases long?_eq_some_iff.mp hRead with
          ⟨text, zoneText, digits, groups, zone, port, rfl,
            hGroups, hZone, hPort, rfl⟩
        exact .long hGroups hZone hPort
  · intro hDenotes
    cases hDenotes with
    | short hParts hPort =>
        have hShort :=
          short?_eq_some_iff.mpr
            ⟨_, _, _, _, rfl, hParts, hPort, rfl⟩
        rw [hShort]
        rfl
    | long hGroups hZone hPort =>
        have hLong :=
          long?_eq_some_iff.mpr
            ⟨_, _, _, _, _, _, rfl, hGroups, hZone, hPort, rfl⟩
        rw [short?_bracket, hLong]
        rfl

/- A list of groups with a gap, parts, a zone and a port. -/
example :
    read? "[::ffff:1.2.3.4%7]:080" =
      some (.long [0, 0, 0, 0, 0, 65535, 258, 772] 7 80) := by
  decide

/- The text of an address has a colon. -/
theorem Denotes.colon_mem
    (hDenotes : Denotes cs address) : ':' ∈ cs := by
  cases hDenotes with
  | short hParts hPort => simp
  | long hGroups hZone hPort => simp

end SocketAddress

end UrlShortener

------------------------------------------------------------
-- Starting
------------------------------------------------------------

namespace UrlShortener

namespace Settings

variable {s : Settings}

/- Of the text to listen on, the check asks for a colon. -/
theorem check_withAddress_iff
    (hValid : s.check = .ok ())
    (text : String) :
    { s with listenAddress := text }.check = .ok () ↔
      ':' ∈ text.toList := by
  rw [check_eq_ok_iff_valid] at hValid ⊢
  constructor
  · exact fun hAddress => hAddress.listenAddress
  · exact fun hColon => { hValid with listenAddress := hColon }

/- The check refuses a text only if it has no colon. -/
theorem colon_not_mem_of_check
    {text : String}
    (hCheck : s.check = .error (.listenAddress text)) :
    ':' ∉ s.listenAddress.toList := by
  unfold check at hCheck
  split at hCheck
  · rename_i kept fault hBroken
    cases hCheck
    have hRule :
        kept = decide (':' ∈ s.listenAddress.toList) ∧
          text = s.listenAddress := by
      simpa [rules] using List.mem_of_find?_eq_some hBroken
    have hKept := List.find?_some hBroken
    rw [hRule.1] at hKept
    simpa using hKept
  · cases hCheck

end Settings

namespace Startup

/- The address is found if the text is that of an address. -/
theorem address_eq_ok_iff
    {s : Settings}
    {a : SocketAddress} :
    address s = .ok a ↔
      SocketAddress.Denotes s.listenAddress.toList a := by
  rw [← SocketAddress.read?_eq_some_iff]
  unfold address
  cases SocketAddress.read? s.listenAddress with
  | none => exact iff_of_false nofun nofun
  | some found => rw [Except.ok.injEq, Option.some.injEq]

theorem address_eq_error_iff
    {s : Settings}
    {fault : StartFault} :
    address s = .error fault ↔
      fault = .badAddress ∧
        ∀ a, ¬ SocketAddress.Denotes s.listenAddress.toList a := by
  simp only [← SocketAddress.read?_eq_some_iff]
  unfold address
  cases SocketAddress.read? s.listenAddress with
  | none =>
      rw [Except.error.injEq]
      constructor
      · rintro rfl
        exact ⟨rfl, nofun⟩
      · rintro ⟨rfl, _⟩
        rfl
  | some found =>
      refine iff_of_false nofun ?_
      rintro ⟨_, hNone⟩
      exact hNone found rfl

variable {env : Environment} {s : Settings}
variable {a : SocketAddress} {fault : StartFault}

/- Both the settings and the address are needed. -/
theorem load_eq_ok_iff :
    load env = .ok (s, a) ↔
      Settings.load env = .ok s ∧
        SocketAddress.Denotes s.listenAddress.toList a := by
  unfold load
  simp only [bind_eq_ok_iff, mapError_eq_ok_iff]
  rw [← address_eq_ok_iff]
  constructor
  · rintro ⟨found, hLoad, _, hAddress, hSame⟩
    cases hSame
    exact ⟨hLoad, hAddress⟩
  · rintro ⟨hLoad, hAddress⟩
    exact ⟨s, hLoad, a, hAddress, rfl⟩

/- It is the first of the two that fails. -/
theorem load_eq_error_iff :
    load env = .error fault ↔
      (∃ broken, Settings.load env = .error broken ∧
        .settings broken = fault) ∨
      ∃ s, Settings.load env = .ok s ∧
        address s = .error fault := by
  unfold load
  simp only [bind_eq_error_iff, mapError_eq_ok_iff,
    mapError_eq_error_iff, pure, Except.pure, reduceCtorEq,
    and_false, exists_false, or_false]

/-
  The service starts with settings that are loaded and whose
  text to listen on is that of an address, and with no
  others. It fails for an address after valid settings just
  when their text is not one, although it has a colon: of the
  text, the check asks for nothing else, so that it refuses
  no address, but lets through what is none.
-/
theorem starts_at_addresses_only
    (env : Environment)
    (s : Settings) :
    (∀ a, address s = .ok a ↔
      SocketAddress.Denotes s.listenAddress.toList a) ∧
    (∀ a, load env = .ok (s, a) ↔
      Settings.load env = .ok s ∧
        SocketAddress.Denotes s.listenAddress.toList a) ∧
    (∀ fault, load env = .error (.settings fault) ↔
      Settings.load env = .error fault) ∧
    (load env = .error .badAddress ↔
      ∃ loaded, Settings.load env = .ok loaded ∧
        ':' ∈ loaded.listenAddress.toList ∧
        ∀ a,
          ¬ SocketAddress.Denotes
            loaded.listenAddress.toList a) ∧
    (s.check = .ok () → ∀ text,
      { s with listenAddress := text }.check = .ok () ↔
        ':' ∈ text.toList) ∧
    (∀ a, SocketAddress.Denotes s.listenAddress.toList a →
      ∀ text, s.check ≠ .error (.listenAddress text)) := by
  refine ⟨fun _ => address_eq_ok_iff, fun _ => load_eq_ok_iff,
    ?_, ?_, Settings.check_withAddress_iff, ?_⟩
  · intro fault
    rw [load_eq_error_iff]
    constructor
    · rintro (⟨broken, hLoad, hSame⟩ | ⟨loaded, _, hAddress⟩)
      · cases hSame
        exact hLoad
      · cases (address_eq_error_iff.mp hAddress).1
    · exact fun hLoad => .inl ⟨fault, hLoad, rfl⟩
  · rw [load_eq_error_iff]
    constructor
    · rintro (⟨broken, _, hSame⟩ | ⟨loaded, hLoad, hAddress⟩)
      · cases hSame
      · have hValid := (Settings.load_eq_ok_iff.mp hLoad).2
        exact ⟨loaded, hLoad, hValid.listenAddress,
          (address_eq_error_iff.mp hAddress).2⟩
    · rintro ⟨loaded, hLoad, _, hNone⟩
      exact .inr ⟨loaded, hLoad,
        address_eq_error_iff.mpr ⟨rfl, hNone⟩⟩
  · intro a hDenotes text hCheck
    exact Settings.colon_not_mem_of_check hCheck
      hDenotes.colon_mem

/- A colon alone is valid, but no address. -/
theorem colon_is_valid_but_no_address :
    let s := { Settings.usual with listenAddress := ":" }
    s.check = .ok () ∧ address s = .error .badAddress ∧
      ¬ ∀ s : Settings, s.check = .ok () →
        ∃ a, address s = .ok a := by
  intro s
  have hValid : s.check = .ok () := by decide
  have hNone : SocketAddress.read? ":" = none := by decide
  have hNoAddress : address s = .error .badAddress := by
    unfold address
    rw [hNone]
  refine ⟨hValid, hNoAddress, ?_⟩
  intro hAll
  rcases hAll s hValid with ⟨a, hAddress⟩
  rw [hNoAddress] at hAddress
  cases hAddress

end Startup

end UrlShortener
