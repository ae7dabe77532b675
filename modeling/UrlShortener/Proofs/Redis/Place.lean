import UrlShortener.Proofs.Text.Unescape
import UrlShortener.Proofs.Url.Reading
import UrlShortener.Redis.Address

/-
  How the URL of a server on a host is read. The place of the
  server, which is a host name and a port, and the number of
  its database are read as they are written. What stands in
  front of the place is the user, unless it has a mark that
  ends the authority.

  Key definitions include:
    * `IsHostName`
    * `Url.IsPlace`
    * `Url.ofPlace`
    * `Url.endMarks`

  Main declarations:
    * `Url.readAuthority_eq`
    * `Url.complete_digits`
    * `Url.parse_parts`
-/

------------------------------------------------------------
-- Names Of Hosts
------------------------------------------------------------

namespace UrlShortener

/- A character of a host name or a dotted address. -/
def IsHostChar (c : Char) : Prop :=
  c.isAlphanum = true ∨ c ∈ "-._".toList

/- A host name or a dotted address. -/
def IsHostName (cs : List Char) : Prop :=
  cs ≠ [] ∧ ∀ c ∈ cs, IsHostChar c

instance : DecidablePred IsHostChar :=
  fun c => inferInstanceAs
    (Decidable (c.isAlphanum = true ∨ c ∈ "-._".toList))

/- A character that is kept wherever it stands in a URL. -/
structure IsHarmless (c : Char) : Prop where
  ascii : c.toNat < 0x80
  shown : Host.isControl c = false
  allowed : Host.isForbidden c = false

theorem IsHostChar.harmless
    {c : Char}
    (hHost : IsHostChar c) : IsHarmless c := by
  have hAscii : c.toNat < 0x80 := by
    rcases hHost with hPlain | hMark
    · exact Utf8.ascii_of_isAlphanum hPlain
    · have hMarks :
          ("-._".toList.all fun d => d.toNat < 0x80) = true := by
        decide
      exact of_decide_eq_true (List.all_eq_true.mp hMarks c hMark)
  have hKept :
      IsHostChar c →
        Host.isControl c = false ∧ Host.isForbidden c = false :=
    Utf8.forall_ascii (by decide) hAscii
  exact ⟨hAscii, (hKept hHost).1, (hKept hHost).2⟩

theorem isHostChar_of_isDigit
    {c : Char}
    (hDigit : c.isDigit = true) : IsHostChar c := by
  refine .inl ?_
  rw [Char.isAlphanum, hDigit, Bool.or_true]

/- No mark of a URL is such a character. -/
theorem IsHarmless.ne
    {c d : Char}
    (hHarmless : IsHarmless c)
    (hMark : Host.isForbidden d = true) : c ≠ d := by
  rintro rfl
  rw [hHarmless.allowed] at hMark
  cases hMark

end UrlShortener

------------------------------------------------------------
-- Authorities
------------------------------------------------------------

namespace UrlShortener

namespace Url

variable {host port : List Char} {n : Nat}

/- A host with a port. -/
def placePart (host port : List Char) : List Char :=
  host ++ ':' :: port

/- What a place is made of. -/
structure IsPlace
    (host port : List Char)
    (n : Nat) : Prop where
  name : IsHostName host
  numeral : IsNumeral port n
  fits : n ≤ maxPort

namespace IsPlace

theorem host_harmless
    (hPlace : IsPlace host port n) :
    ∀ c ∈ host, IsHarmless c :=
  fun c hMem => (hPlace.name.2 c hMem).harmless

/- The host ends at its colon. -/
theorem splitPort
    (hPlace : IsPlace host port n) :
    Url.splitPort false (placePart host port) =
      (host, ':' :: port) := by
  refine splitPort_append (fun c hMem => ?_) (.inr ⟨port, rfl⟩)
  have hChar := hPlace.host_harmless c hMem
  exact ⟨hChar.ne (by decide), hChar.ne (by decide),
    hChar.ne (by decide)⟩

theorem port_harmless
    (hPlace : IsPlace host port n) :
    ∀ c ∈ port, IsHarmless c :=
  fun c hMem =>
    (isHostChar_of_isDigit
      (hPlace.numeral.digits c hMem)).harmless

/- Only the colon between its parts is a mark. -/
theorem not_mem
    (hPlace : IsPlace host port n)
    {mark : Char}
    (hMark : Host.isForbidden mark = true)
    (hColon : mark ≠ ':') : mark ∉ placePart host port := by
  rw [placePart, List.mem_append, List.mem_cons]
  rintro (hMem | hSame | hMem)
  · exact (hPlace.host_harmless mark hMem).ne hMark rfl
  · exact hColon hSame
  · exact (hPlace.port_harmless mark hMem).ne hMark rfl

/- So is none of a list of others. -/
theorem not_mem_marks
    (hPlace : IsPlace host port n)
    {marks : List Char}
    (hMarks :
      (marks.all fun c => Host.isForbidden c && c != ':') =
        true) :
    ∀ mark ∈ marks, mark ∉ placePart host port := by
  intro mark hMem
  have hMark := List.all_eq_true.mp hMarks mark hMem
  rw [Bool.and_eq_true, bne_iff_ne] at hMark
  exact hPlace.not_mem hMark.1 hMark.2

end IsPlace

/- The host is read as it was written. -/
theorem readOtherHost_eq
    (hPlace : IsPlace host port n)
    (hasUser : Bool)
    (rest : List Char) :
    readOtherHost hasUser host rest = .ok (.name host) := by
  have hEscape :
      Percent.escape Host.isControl host = host := by
    apply Percent.escape_eq_self
    intro c hMem
    have hChar := hPlace.host_harmless c hMem
    exact ⟨hChar.ascii, hChar.shown⟩
  have hAllowed : ¬ host.any Host.isForbidden = true := by
    rw [List.any_eq_true]
    rintro ⟨c, hMem, hMark⟩
    rw [(hPlace.host_harmless c hMem).allowed] at hMark
    cases hMark
  rcases List.exists_cons_of_ne_nil hPlace.name.1 with
    ⟨c, more, rfl⟩
  have hOpen : c ≠ '[' :=
    (hPlace.host_harmless c List.mem_cons_self).ne (by decide)
  unfold readOtherHost Host.ofOther
  rw [if_neg (by simp)]
  split
  · rename_i hBracket
    cases hBracket
    exact absurd rfl hOpen
  · rw [if_neg hAllowed, hEscape]

/- A URL of a server, as far as its authority goes. -/
def ofPlace
    (user? : Option (List Char))
    (host : List Char)
    (n : Nat) : Url :=
  let (username, password) := readUser (user?.getD [])
  { scheme := "redis".toList
    username, password
    host := some (.name host)
    port := some n
    path := [], query := none, fragment := none }

/- An authority is read as its parts. -/
theorem readAuthority_eq
    (hPlace : IsPlace host port n)
    (user? : Option (List Char)) :
    readAuthority .other "redis".toList
        (userPart user? ++ placePart host port) false =
      .ok (ofPlace user? host n, []) := by
  have hAt : '@' ∉ placePart host port :=
    hPlace.not_mem (by decide) (by decide)
  have hBackslash : '\\' ∉ ':' :: port := by
    intro hMem
    exact hPlace.not_mem (by decide) (by decide)
      (List.mem_append_right host hMem)
  have hPort := Text.bne_of_not_mem hBackslash
  have hCut :
      cutPort .other (':' :: port) = (':' :: port, []) := by
    unfold cutPort
    rw [if_neg (by decide),
      List.takeWhile_eq_self_iff.mpr hPort,
      List.dropWhile_eq_nil_iff.mpr hPort]
  have hEmpty : (placePart host port).isEmpty = false := by
    simp [placePart]
  unfold readAuthority ofPlace
  rw [splitLastAt_append hAt]
  dsimp only
  rw [hEmpty, Bool.and_false, Bool.false_and, if_neg (by simp),
    hPlace.splitPort, readOtherHost_eq hPlace, hCut]
  dsimp only
  rw [readPort_of_numeral hPlace.numeral hPlace.fits (by simp)]
  rfl

end Url

end UrlShortener

------------------------------------------------------------
-- Paths Of Digits
------------------------------------------------------------

namespace UrlShortener

namespace Url

variable {cs : List Char}

/- Digits are no dots, which would stand for a place. -/
theorem not_dots_of_digit
    {c : Char}
    (hDigit : c.isDigit = true)
    (cs : List Char) :
    isDoubleDot (c :: cs) = false ∧
      isSingleDot (c :: cs) = false := by
  have hAscii := (isHostChar_of_isDigit hDigit).harmless.ascii
  have hLower : c.isDigit = true →
      c.toLower ≠ '.' ∧ c.toLower ≠ '%' :=
    Utf8.forall_ascii (by decide) hAscii
  have hOther
      {dots : List String}
      (hDots :
        ∀ s ∈ dots, s.toList.head? = some '.' ∨
          s.toList.head? = some '%') :
      dots.contains
          (String.ofList ((c :: cs).map Char.toLower)) =
        false := by
    rw [Bool.eq_false_iff, ne_eq, List.contains_iff_mem]
    intro hMem
    have hHead := hDots _ hMem
    rw [String.toList_ofList, List.map_cons, List.head?_cons,
      Option.some.injEq, Option.some.injEq] at hHead
    exact hHead.elim (hLower hDigit).1 (hLower hDigit).2
  exact ⟨hOther (by decide), hOther (by decide)⟩

/- The number of a database is a path of one part. -/
theorem readPath_digits
    (hSome : cs ≠ [])
    (hDigits : ∀ c ∈ cs, c.isDigit = true) :
    readPath .other ('/' :: cs) = '/' :: cs := by
  have hHarmless (c : Char) (hMem : c ∈ cs) : IsHarmless c :=
    (isHostChar_of_isDigit (hDigits c hMem)).harmless
  have hSplit :
      Text.splitWhere (Scheme.isSlash .other) cs = [cs] := by
    rw [Text.splitWhere_eq_singleton_iff]
    refine ⟨fun c hMem => ?_, rfl⟩
    have hSlash : c ≠ '/' := (hHarmless c hMem).ne (by decide)
    simp [Scheme.isSlash, Scheme.isSpecial, hSlash]
  have hEscape :
      Percent.escape escapedInPath cs = cs := by
    apply Percent.escape_eq_self
    intro c hMem
    have hAscii := (hHarmless c hMem).ascii
    have hKept : c.isDigit = true → escapedInPath c = false :=
      Utf8.forall_ascii (by decide) hAscii
    exact ⟨hAscii, hKept (hDigits c hMem)⟩
  have hParts : parts .other ('/' :: cs) = [cs] := by
    unfold parts
    dsimp only
    rw [if_pos (by decide), hSplit, List.map_singleton, hEscape]
  rcases List.exists_cons_of_ne_nil hSome with ⟨c, more, rfl⟩
  have hDots :=
    not_dots_of_digit (hDigits c List.mem_cons_self) more
  unfold readPath
  rw [if_neg (by simp), hParts, walk, hDots.1, hDots.2]
  simp [pathChars]

/- Nothing follows such a path. -/
theorem complete_digits
    (hSome : cs ≠ [])
    (hDigits : ∀ c ∈ cs, c.isDigit = true)
    (u : Url) :
    complete .other u ('/' :: cs) =
      { u with
          path := '/' :: cs, query := none, fragment := none } := by
  have hInside :
      ∀ c ∈ '/' :: cs, (!endsPath c) = true := by
    rw [List.forall_mem_cons]
    refine ⟨by decide, fun c hMem => ?_⟩
    have hHarmless :=
      (isHostChar_of_isDigit (hDigits c hMem)).harmless
    have hQuery : c ≠ '?' := hHarmless.ne (by decide)
    have hFragment : c ≠ '#' := hHarmless.ne (by decide)
    simp [endsPath, hQuery, hFragment]
  unfold complete
  rw [List.dropWhile_eq_nil_iff.mpr hInside,
    List.takeWhile_eq_self_iff.mpr hInside,
    readPath_digits hSome hDigits]
  rfl

end Url

end UrlShortener

------------------------------------------------------------
-- Whole URLs
------------------------------------------------------------

namespace UrlShortener

namespace Url

/- The marks that end an authority. -/
def endMarks : List Char := "/?#".toList

theorem endsAuthority_eq_false_iff {c : Char} :
    Scheme.other.endsAuthority c = false ↔ c ∉ endMarks := by
  simp [Scheme.endsAuthority, Scheme.isSlash,
    Scheme.isSpecial, endMarks, and_assoc]

section Parts

variable {host port database : List Char} {n d : Nat}

/- Everything behind the slashes of a server's URL. -/
theorem readSlashed_eq
    {user? : Option (List Char)}
    (hPlace : IsPlace host port n)
    (hDatabase : IsNumeral database d)
    (hUser : ∀ user ∈ user?, ∀ c ∈ user, c ∉ endMarks) :
    readSlashed .other "redis".toList
        (userPart user? ++ placePart host port
          ++ '/' :: database) =
      .ok { ofPlace user? host n with
        path := '/' :: database } := by
  have hMarks :
      ∀ c ∈ userPart user? ++ placePart host port,
        c ∉ endMarks := by
    intro c hMem hMark
    rcases List.mem_append.mp hMem with hUserPart | hPlacePart
    · cases user? with
      | none => cases hUserPart
      | some user =>
          rcases List.mem_append.mp hUserPart with hOwn | hAt
          · exact hUser user rfl c hOwn hMark
          · rw [List.mem_singleton.mp hAt] at hMark
            exact absurd hMark (by decide)
    · exact hPlace.not_mem_marks (by decide) c hMark hPlacePart
  have hInside :
      ∀ c ∈ userPart user? ++ placePart host port,
        (!Scheme.other.endsAuthority c) = true := by
    intro c hMem
    rw [endsAuthority_eq_false_iff.mpr (hMarks c hMem)]
    rfl
  have hSlash :
      (!Scheme.other.endsAuthority '/') = false := by decide
  unfold readSlashed
  rw [Text.takeWhile_stop hInside hSlash,
    Text.dropWhile_stop hInside hSlash]
  dsimp only
  rw [List.isEmpty_cons, readAuthority_eq hPlace]
  refine congrArg Except.ok ?_
  rw [List.nil_append,
    complete_digits hDatabase.not_empty hDatabase.digits]
  rfl

/- What is left of a server's URL when it is cleaned. -/
theorem cleaned_parts
    {before : List Char}
    (hDatabase : IsNumeral database d) :
    cleaned ("redis://".toList ++ (before ++ '/' :: database)) =
      "redis://".toList ++
        ((before.filter fun c => !isSkipped c)
          ++ '/' :: database) := by
  have hDigit :
      ∀ c ∈ database,
        isSkipped c = false ∧ isStripped c = false := by
    intro c hMem
    have hDigit := hDatabase.digits c hMem
    have hAscii := (isHostChar_of_isDigit hDigit).harmless.ascii
    have hKept : c.isDigit = true →
        isSkipped c = false ∧ isStripped c = false :=
      Utf8.forall_ascii (by decide) hAscii
    exact hKept hDigit
  rw [cleaned_eq_filter]
  · have hFront :
        "redis://".toList.filter (fun c => !isSkipped c) =
          "redis://".toList := by decide
    have hBack :
        ('/' :: database).filter (fun c => !isSkipped c) =
          '/' :: database := by
      apply filter_skipped_eq_self
      rw [List.forall_mem_cons]
      exact ⟨by decide, fun c hMem => (hDigit c hMem).1⟩
    rw [List.filter_append, List.filter_append, hFront, hBack]
  · rintro c ⟨⟩
    decide
  · intro c hLast
    rw [List.append_cons before, ← List.append_assoc,
      List.getLast?_append_of_ne_nil _ hDatabase.not_empty]
      at hLast
    exact (hDigit c (List.mem_of_getLast? hLast)).2

theorem parse_of_cleaned
    {cs rest : List Char}
    (hCleaned : cleaned cs = "redis://".toList ++ rest) :
    parse cs = readSlashed .other "redis".toList rest := by
  unfold parse
  rw [hCleaned]
  rfl

/- So is the whole URL, if the user has no end mark. -/
theorem parse_parts
    {user? : Option (List Char)}
    (hPlace : IsPlace host port n)
    (hDatabase : IsNumeral database d)
    (hUser : ∀ user ∈ user?, ∀ c ∈ user, c ∉ endMarks) :
    parse ("redis://".toList ++
        (userPart user? ++ placePart host port
          ++ '/' :: database)) =
      .ok {
        ofPlace (user?.map fun user =>
          user.filter fun c => !isSkipped c) host n with
        path := '/' :: database } := by
  have hKept :
      (userPart user? ++ placePart host port).filter
          (fun c => !isSkipped c) =
        userPart (user?.map fun user =>
          user.filter fun c => !isSkipped c) ++
            placePart host port := by
    have hPlaceKept :
        (placePart host port).filter (fun c => !isSkipped c) =
          placePart host port := by
      apply filter_skipped_eq_self
      intro c hMem
      rw [Bool.eq_false_iff]
      intro hSkipped
      have hMark : c ∈ "\t\n\r".toList := by
        simpa [isSkipped, or_assoc] using hSkipped
      exact hPlace.not_mem_marks (by decide) c hMark hMem
    rw [List.filter_append, hPlaceKept]
    cases user? with
    | none => rfl
    | some user =>
        rw [userPart, List.filter_append]
        rfl
  rw [parse_of_cleaned (cleaned_parts hDatabase), hKept]
  refine readSlashed_eq hPlace hDatabase ?_
  intro user hMap c hMem
  rcases Option.map_eq_some_iff.mp hMap with ⟨_, rfl, rfl⟩
  exact hUser _ rfl c (List.mem_of_mem_filter hMem)

end Parts

end Url

end UrlShortener
