import UrlShortener.Proofs.Url.Resolution
import UrlShortener.Proofs.Url.Written

/-
  The text of a web URL that was read is read as that URL,
  just when the text of its host is read as that host. A
  name may not be: a label that is encoded can be longer
  than those that are decoded.

  Key definitions include:
    * `Url.IsInside`
    * `Host.ReadsBack`
    * `Url.region`
    * `Url.rest`
    * `Url.IsWebUrl`

  Main declarations:
    * `Url.readAuthority_region`
    * `Url.readPath_pathChars`
    * `Url.complete_rest`
    * `Url.isWebUrl_of_parse`
    * `Url.IsWebUrl.namesAuthority`
    * `Url.IsWebUrl.parse_chars_iff`
-/

------------------------------------------------------------
-- Visible Characters
------------------------------------------------------------

namespace UrlShortener

namespace Url

open Percent (Escaped)

/- A text without blanks is left as it is. -/
theorem cleaned_eq_self
    {cs : List Char}
    (hVisible : ∀ c ∈ cs, isStripped c = false) :
    cleaned cs = cs := by
  rw [cleaned_eq_filter, filter_skipped_eq_self]
  · intro c hMem
    rw [Bool.eq_false_iff]
    intro hSkipped
    have hMark : c ∈ "\t\n\r".toList := by
      simpa [isSkipped, or_assoc] using hSkipped
    have hBlank : ("\t\n\r".toList.all isStripped) = true := by
      decide
    have hStripped := List.all_eq_true.mp hBlank c hMark
    rw [hVisible c hMem] at hStripped
    cases hStripped
  · exact fun c hHead => hVisible c (List.mem_of_mem_head? hHead)
  · exact fun c hLast => hVisible c (List.mem_of_getLast? hLast)

/- The marks that end the authority of a web URL. -/
def webMarks : List Char := "/\\?#".toList

theorem endsAuthority_special {port : Nat} {c : Char} :
    (Scheme.special port).endsAuthority c = false ↔
      c ∉ webMarks := by
  simp [Scheme.endsAuthority, Scheme.isSlash,
    Scheme.isSpecial, webMarks, and_assoc]

/- A character that may stand in an authority. -/
def IsInside (c : Char) : Prop :=
  isStripped c = false ∧ c ∉ webMarks

instance : DecidablePred IsInside :=
  fun c => inferInstanceAs
    (Decidable (isStripped c = false ∧ c ∉ webMarks))

theorem inside_of_user
    {c : Char}
    (hAscii : c.toNat < 0x80)
    (hKept : escapedInUser c = false) :
    IsInside c ∧ c ≠ ':' ∧ c ≠ '@' := by
  have hAll : escapedInUser c = false →
      IsInside c ∧ c ≠ ':' ∧ c ≠ '@' :=
    Utf8.forall_ascii (by decide) hAscii
  exact hAll hKept

theorem inside_of_allowed
    {c : Char}
    (hAllowed : Domain.IsAllowed c) :
    IsInside c ∧ c ≠ '@' := by
  have hAll : Domain.isForbidden c = false →
      IsInside c ∧ c ≠ '@' :=
    Utf8.forall_ascii (by decide) hAllowed.1
  exact hAll hAllowed.2

end Url

end UrlShortener

------------------------------------------------------------
-- Authorities
------------------------------------------------------------

namespace UrlShortener

/- A host whose text is read as that host. -/
def Host.ReadsBack (h : Host) : Prop :=
  ofDomain h.chars = .ok h

namespace Url

/- The user of a URL, in front of its at sign. -/
def user? (u : Url) : Option (List Char) :=
  if u.username.isEmpty && u.password.isNone then none
  else
    some (u.username ++
      match u.password with
      | some secret => ':' :: secret
      | none => [])

/- What stands between the slashes and the path. -/
def region (u : Url) (h : Host) : List Char :=
  userPart u.user? ++ (h.chars ++ u.portChars)

variable {u : Url} {h : Host} {port : Nat}

theorem authority_eq
    (hHost : u.host = some h) :
    u.authority = '/' :: '/' :: u.region h := by
  have hUser : u.credentials = userPart u.user? := by
    unfold credentials user?
    dsimp only
    split
    · rfl
    · rfl
  unfold authority region
  rw [hHost]
  dsimp only
  rw [hUser, List.cons_append, List.cons_append,
    List.cons_append, List.cons_append, List.append_assoc]

/- Every character of a port is a colon or a digit. -/
theorem mem_portChars
    {c : Char}
    (hMem : c ∈ u.portChars) : c = ':' ∨ c.isDigit = true := by
  unfold portChars at hMem
  split at hMem
  · rename_i n _
    rcases List.mem_cons.mp hMem with hColon | hDigit
    · exact .inl hColon
    · exact .inr ((isNumeral_toString n).digits c hDigit)
  · cases hMem

theorem beginsPort_portChars (u : Url) :
    BeginsPort u.portChars := by
  unfold portChars
  split
  · exact .inr ⟨_, rfl⟩
  · exact .inl rfl

namespace IsWritten

/- The user is read as it was written. -/
theorem readUser
    (hWritten : u.IsWritten (.special port)) :
    Url.readUser (u.user?.getD []) =
      (u.username, u.password) := by
  have hName :
      Percent.escape escapedInUser u.username = u.username :=
    Percent.escape_eq_self hWritten.username
  have hInside : ∀ c ∈ u.username, (c != ':') = true := by
    intro c hMem
    rcases hWritten.username c hMem with ⟨hAscii, hKept⟩
    exact bne_iff_ne.mpr (inside_of_user hAscii hKept).2.1
  unfold user?
  split
  · rename_i hNobody
    rw [Bool.and_eq_true, List.isEmpty_iff,
      Option.isNone_iff_eq_none] at hNobody
    rw [hNobody.1, hNobody.2]
    rfl
  · rw [Option.getD_some]
    unfold Url.readUser
    cases hSecret : u.password with
    | none =>
        dsimp only
        rw [List.append_nil,
          List.takeWhile_eq_self_iff.mpr hInside,
          List.dropWhile_eq_nil_iff.mpr hInside, hName]
        rfl
    | some secret =>
        rcases hWritten.password secret hSecret with
          ⟨hSome, hEscaped⟩
        dsimp only
        rw [Text.takeWhile_stop hInside (by decide),
          Text.dropWhile_stop hInside (by decide), hName,
          List.drop_one, List.tail_cons,
          Percent.escape_eq_self hEscaped,
          if_neg (List.isEmpty_iff.not.mpr hSome)]

/- So is the port. -/
theorem readPort
    (hWritten : u.IsWritten (.special port)) :
    Url.readPort (.special port) u.portChars = .ok u.port := by
  unfold portChars
  cases hPort : u.port with
  | none => rfl
  | some n =>
      rcases hWritten.port n hPort with ⟨hFits, hOther⟩
      exact readPort_of_numeral (isNumeral_toString n) hFits hOther

theorem user_inside
    (hWritten : u.IsWritten (.special port)) :
    ∀ c ∈ userPart u.user?, IsInside c := by
  have hPart
      {cs : List Char}
      (hEscaped : Percent.Escaped escapedInUser cs) :
      ∀ c ∈ cs, IsInside c :=
    fun c hMem =>
      (inside_of_user (hEscaped c hMem).1 (hEscaped c hMem).2).1
  unfold user?
  split
  · exact List.forall_mem_nil _
  · rw [userPart, List.forall_mem_append,
      List.forall_mem_append, List.forall_mem_singleton]
    refine ⟨⟨hPart hWritten.username, ?_⟩, by decide⟩
    split
    · rename_i secret hSecret
      rw [List.forall_mem_cons]
      exact ⟨by decide,
        hPart (hWritten.password secret hSecret).2⟩
    · exact List.forall_mem_nil _

end IsWritten

/- A host has no such mark, and no at sign. -/
theorem host_inside
    {cs : List Char}
    (hText : IsHostText cs) :
    ∀ c ∈ cs, IsInside c ∧ c ≠ '@' := by
  intro c hMem
  rcases hText.marks c hMem with hMark | hAllowed
  · have hAll :
        ("[:]".toList.all fun d =>
          decide (IsInside d ∧ d ≠ '@')) = true := by decide
    exact of_decide_eq_true (List.all_eq_true.mp hAll c hMark)
  · exact inside_of_allowed hAllowed

theorem place_inside
    (hText : IsHostText h.chars) :
    ∀ c ∈ h.chars ++ u.portChars, IsInside c ∧ c ≠ '@' := by
  rw [List.forall_mem_append]
  refine ⟨host_inside hText, fun c hMem => ?_⟩
  rcases mem_portChars hMem with rfl | hDigit
  · decide
  · have hAscii := Utf8.ascii_of_isDigit hDigit
    have hAll : c.isDigit = true → IsInside c ∧ c ≠ '@' :=
      Utf8.forall_ascii (by decide) hAscii
    exact hAll hDigit

theorem region_inside
    (hWritten : u.IsWritten (.special port))
    (hText : IsHostText h.chars) :
    ∀ c ∈ u.region h, IsInside c := by
  unfold region
  rw [List.forall_mem_append]
  exact ⟨hWritten.user_inside,
    fun c hMem => (place_inside hText c hMem).1⟩

theorem region_ne_nil
    (hText : IsHostText h.chars) : u.region h ≠ [] := by
  unfold region
  simp [hText.not_empty]

/- An authority is read as its parts. -/
theorem readAuthority_region
    (hWritten : u.IsWritten (.special port))
    (hReads : h.ReadsBack)
    (isLast : Bool) :
    readAuthority (.special port) u.scheme (u.region h) isLast =
      .ok ({
        u with
        host := some h
        path := [], query := none, fragment := none }, []) := by
  have hText := Host.isHostText_of_ofDomain hReads
  have hAt : '@' ∉ h.chars ++ u.portChars :=
    fun hMem => (place_inside hText '@' hMem).2 rfl
  have hPlace : (h.chars ++ u.portChars).isEmpty = false := by
    simp [hText.not_empty]
  have hSome : h.chars.isEmpty = false :=
    List.isEmpty_eq_false_iff.mpr hText.not_empty
  have hCut :
      cutPort (.special port) u.portChars = (u.portChars, []) :=
    rfl
  unfold readAuthority region
  rw [splitLastAt_append hAt]
  dsimp only
  rw [hPlace, Bool.and_false, Bool.false_and,
    if_neg Bool.false_ne_true, hWritten.readUser,
    hText.splitPort (beginsPort_portChars u), hCut]
  dsimp only
  rw [hSome, if_neg Bool.false_ne_true, hReads,
    hWritten.readPort]
  rfl

end Url

end UrlShortener

------------------------------------------------------------
-- Paths
------------------------------------------------------------

namespace UrlShortener

namespace Url

variable {s : Scheme} {paths : List (List Char)}

/- A path of parts is split into them. -/
theorem splitWhere_pathChars
    {part : List Char}
    {others : List (List Char)}
    (hWhole :
      ∀ p ∈ part :: others, ∀ c ∈ p, s.isSlash c = false) :
    Text.splitWhere s.isSlash (part ++ pathChars others) =
      part :: others := by
  induction others generalizing part with
  | nil =>
      rw [List.forall_mem_singleton] at hWhole
      rw [pathChars, List.flatMap_nil, List.append_nil]
      exact Text.splitWhere_eq_singleton_iff.mpr ⟨hWhole, rfl⟩
  | cons next others ih =>
      rcases List.forall_mem_cons.mp hWhole with ⟨hPart, hRest⟩
      have hSlash : s.isSlash '/' = true := by
        simp [Scheme.isSlash]
      rw [pathChars, List.flatMap_cons, List.cons_append,
        Text.splitWhere_append hPart hSlash]
      exact congrArg _ (ih hRest)

/- A path that was read is read as itself. -/
theorem readPath_pathChars
    (hSome : paths ≠ [])
    (hParts : ∀ part ∈ paths, IsPart s part) :
    readPath s (pathChars paths) = pathChars paths := by
  have hEscape :
      paths.map (Percent.escape escapedInPath) = paths := by
    refine (List.map_congr_left fun part hPart => ?_).trans
      (List.map_id paths)
    exact Percent.escape_eq_self (hParts part hPart).escaped
  rcases List.exists_cons_of_ne_nil hSome with
    ⟨part, others, rfl⟩
  have hGiven :
      Url.parts s (pathChars (part :: others)) =
        part :: others := by
    have hSlash : s.isSlash '/' = true := by
      simp [Scheme.isSlash]
    rw [pathChars, List.flatMap_cons, List.cons_append]
    unfold Url.parts
    dsimp only
    rw [if_pos hSlash]
    change (Text.splitWhere _ (part ++ pathChars others)).map _ = _
    rw [splitWhere_pathChars
      fun p hMem => (hParts p hMem).whole, hEscape]
  have hDots :
      ∀ p ∈ part :: others,
        isDoubleDot p = false ∧ isSingleDot p = false :=
    fun p hMem => ⟨(hParts p hMem).not_up, (hParts p hMem).not_dot⟩
  unfold readPath
  rw [hGiven, walk_eq_self hDots, List.reverse_nil,
    List.nil_append]
  exact if_neg (by simp [pathChars])

end Url

end UrlShortener

------------------------------------------------------------
-- Queries And Fragments
------------------------------------------------------------

namespace UrlShortener

namespace Url

open Percent (Escaped)

variable {s : Scheme}

/- A query and a fragment are read as they were written. -/
theorem readTail_marked
    {query fragment : Option (List Char)}
    (hQuery : ∀ part ∈ query, Escaped (escapedInQuery s) part)
    (hFragment :
      ∀ part ∈ fragment, Escaped escapedInFragment part) :
    readTail s (marked '?' query ++ marked '#' fragment) =
      (query, fragment) := by
  have hLast (part : List Char) (hPart : part ∈ fragment) :
      Percent.escape escapedInFragment part = part :=
    Percent.escape_eq_self (hFragment part hPart)
  cases query with
  | none =>
      cases fragment with
      | none => rfl
      | some part =>
          change (none, some _) = _
          rw [hLast part rfl]
  | some first =>
      have hFirst :=
        Percent.escape_eq_self (hQuery first rfl)
      have hInside : ∀ c ∈ first, (c != '#') = true := by
        refine Text.bne_of_not_mem fun hMem => ?_
        have hMark := (hQuery first rfl '#' hMem).2
        rw [escapedInQuery, Bool.or_eq_false_iff] at hMark
        exact absurd hMark.1 (by decide)
      cases fragment with
      | none =>
          simp only [readTail, marked, List.append_nil,
            List.takeWhile_eq_self_iff.mpr hInside,
            List.dropWhile_eq_nil_iff.mpr hInside, hFirst]
      | some part =>
          have hStop : ('#' != '#') = false := by decide
          simp only [readTail, marked, List.cons_append,
            Text.takeWhile_stop hInside hStop,
            Text.dropWhile_stop hInside hStop, hFirst,
            hLast part rfl]

end Url

end UrlShortener

------------------------------------------------------------
-- Whole URLs
------------------------------------------------------------

namespace UrlShortener

namespace Url

open Percent (Escaped)

variable {u : Url} {h : Host} {port : Nat}

/- What stands behind the authority. -/
def rest (u : Url) : List Char :=
  u.path ++ (marked '?' u.query ++ marked '#' u.fragment)

theorem chars_eq
    (hHost : u.host = some h) :
    u.chars =
      u.scheme ++ ':' :: '/' :: '/' :: (u.region h ++ u.rest) := by
  unfold chars rest
  rw [authority_eq hHost]
  simp

/- A path ends where a query or a fragment begins. -/
theorem cut_rest
    (hPath : ∀ c ∈ u.path, endsPath c = false) :
    (u.rest.takeWhile fun c => !endsPath c) = u.path ∧
      (u.rest.dropWhile fun c => !endsPath c) =
        marked '?' u.query ++ marked '#' u.fragment := by
  have hInside : ∀ c ∈ u.path, (!endsPath c) = true := by
    intro c hMem
    rw [hPath c hMem]
    rfl
  have hEnds :
      marked '?' u.query ++ marked '#' u.fragment = [] ∨
        ∃ mark after,
          marked '?' u.query ++ marked '#' u.fragment =
              mark :: after ∧
            (!endsPath mark) = false := by
    cases u.query with
    | some part => exact .inr ⟨'?', _, rfl, by decide⟩
    | none =>
        cases u.fragment with
        | some part => exact .inr ⟨'#', _, rfl, by decide⟩
        | none => exact .inl rfl
  unfold rest
  rcases hEnds with hNone | ⟨mark, after, hMark, hStop⟩
  · rw [hNone, List.append_nil]
    exact ⟨List.takeWhile_eq_self_iff.mpr hInside,
      List.dropWhile_eq_nil_iff.mpr hInside⟩
  · rw [hMark]
    exact ⟨Text.takeWhile_stop hInside hStop after,
      Text.dropWhile_stop hInside hStop after⟩

theorem IsWritten.path_inside
    (hWritten : u.IsWritten (.special port)) :
    ∀ c ∈ u.path, isStripped c = false ∧ endsPath c = false := by
  rcases hWritten.path with ⟨parts, _, hPath, hParts⟩
  intro c hMem
  rw [hPath] at hMem
  rcases List.mem_flatMap.mp hMem with ⟨part, hPart, hChar⟩
  rcases List.mem_cons.mp hChar with rfl | hOwn
  · decide
  · rcases (hParts part hPart).escaped c hOwn with
      ⟨hAscii, hKept⟩
    have hAll : escapedInPath c = false →
        isStripped c = false ∧ endsPath c = false :=
      Utf8.forall_ascii (by decide) hAscii
    exact hAll hKept

/- Everything behind the authority is read as it is. -/
theorem complete_rest
    (hWritten : u.IsWritten (.special port))
    (v : Url) :
    complete (.special port) v u.rest =
      { v with
          path := u.path
          query := u.query
          fragment := u.fragment } := by
  rcases cut_rest fun c hMem => (hWritten.path_inside c hMem).2
    with ⟨hPath, hTail⟩
  rcases hWritten.path with ⟨parts, hSome, hGiven, hParts⟩
  unfold complete
  rw [hPath, hTail,
    readTail_marked hWritten.query hWritten.fragment, hGiven,
    readPath_pathChars hSome hParts]

/- A text with nothing left to escape has no blanks. -/
theorem visible_of_escaped
    {inSet : Char → Bool}
    (hBlanks :
      ∀ n < 0x80, isStripped (Char.ofNat n) = true →
        inSet (Char.ofNat n) = true)
    {cs : List Char}
    (hEscaped : Escaped inSet cs) :
    ∀ c ∈ cs, isStripped c = false := by
  intro c hMem
  rcases hEscaped c hMem with ⟨hAscii, hKept⟩
  have hBlank : isStripped c = true → inSet c = true :=
    Utf8.forall_ascii hBlanks hAscii
  rw [Bool.eq_false_iff]
  intro hStripped
  rw [hBlank hStripped] at hKept
  cases hKept

namespace IsWritten

theorem rest_visible
    (hWritten : u.IsWritten (.special port)) :
    ∀ c ∈ u.rest, isStripped c = false := by
  have hMarked
      {mark : Char}
      {part? : Option (List Char)}
      (hMark : isStripped mark = false)
      (hPart :
        ∀ part ∈ part?, ∀ c ∈ part, isStripped c = false) :
      ∀ c ∈ marked mark part?, isStripped c = false := by
    cases part? with
    | none => exact List.forall_mem_nil _
    | some part =>
        exact List.forall_mem_cons.mpr ⟨hMark, hPart part rfl⟩
  have hBlanks :
      ∀ n < 0x80, isStripped (Char.ofNat n) = true →
        escapedInQuery (.special port) (Char.ofNat n) = true := by
    unfold escapedInQuery
    generalize (Scheme.special port).isSpecial = special
    cases special <;> decide
  unfold rest
  rw [List.forall_mem_append, List.forall_mem_append]
  refine ⟨fun c hMem => (hWritten.path_inside c hMem).1, ?_, ?_⟩
  · exact hMarked (by decide) fun part hPart =>
      visible_of_escaped hBlanks (hWritten.query part hPart)
  · exact hMarked (by decide) fun part hPart =>
      visible_of_escaped (by decide)
        (hWritten.fragment part hPart)

/- A path begins with a slash. -/
theorem rest_eq_cons
    (hWritten : u.IsWritten (.special port)) :
    ∃ after, u.rest = '/' :: after := by
  rcases hWritten.path with ⟨parts, hSome, hPath, _⟩
  rcases List.exists_cons_of_ne_nil hSome with
    ⟨part, others, rfl⟩
  rw [rest, hPath]
  exact ⟨_, rfl⟩

end IsWritten

theorem lower_of_web
    {scheme : List Char}
    (hWeb : scheme ∈ webSchemes) :
    scheme.map Char.toLower = scheme := by
  rcases List.mem_pair.mp hWeb with rfl | rfl
  · decide
  · decide

/- All slashes behind the scheme are its own. -/
theorem dropSlashes
    {marks cs : List Char}
    (hMarks : ∀ c ∈ marks, c ∈ ['/', '\\'])
    (hHead : ∀ c ∈ cs.head?, IsInside c) :
    (marks ++ cs).dropWhile (Scheme.isSlash (.special port)) =
      cs := by
  rw [List.dropWhile_append_of_pos
    fun c hMem => isSlash_special.mpr (hMarks c hMem)]
  refine Text.dropWhile_eq_self fun c hFirst => ?_
  have hEnds : (Scheme.special port).endsAuthority c = false :=
    endsAuthority_special.mpr (hHead c hFirst).2
  rw [Scheme.endsAuthority, Bool.or_eq_false_iff,
    Bool.or_eq_false_iff] at hEnds
  exact hEnds.1.1

/- A web URL on a host, as it is once it was read. -/
structure IsWebUrl
    (u : Url)
    (h : Host)
    (port : Nat) : Prop where
  web : u.scheme ∈ webSchemes
  kind : Scheme.kind u.scheme = .special port
  named : u.host = some h
  text : IsHostText h.chars
  written : u.IsWritten (.special port)

theorem isWebUrl_of_parse
    {cs : List Char}
    (hParse : parse cs = .ok u)
    (hWeb : u.scheme ∈ webSchemes) :
    ∃ h port, u.IsWebUrl h port := by
  rcases kind_of_web hWeb with ⟨port, hKind⟩
  have hWritten := isWritten_of_parse hParse hKind
  rcases hWritten.host with ⟨h, name, hHost, hRead⟩
  exact ⟨h, port, hWeb, hKind, hHost,
    Host.isHostText_of_ofDomain hRead, hWritten⟩

namespace IsWebUrl

variable (hUrl : u.IsWebUrl h port)

include hUrl

theorem region_inside :
    ∀ c ∈ u.region h, IsInside c :=
  Url.region_inside hUrl.written hUrl.text

/- Its text has no blanks, so nothing is dropped from it. -/
theorem chars_visible :
    ∀ c ∈ u.chars, isStripped c = false := by
  have hLetters :
      (webSchemes.all fun scheme =>
        scheme.all fun c => !isStripped c) = true := by decide
  have hScheme := List.all_eq_true.mp hLetters _ hUrl.web
  rw [chars_eq hUrl.named, List.forall_mem_append,
    List.forall_mem_cons, List.forall_mem_cons,
    List.forall_mem_cons, List.forall_mem_append]
  refine ⟨?_, by decide, by decide, by decide, ?_, ?_⟩
  · intro c hMem
    have hVisible := List.all_eq_true.mp hScheme c hMem
    rwa [Bool.not_eq_true'] at hVisible
  · exact fun c hMem => (hUrl.region_inside c hMem).1
  · exact hUrl.written.rest_visible

theorem cleaned_chars :
    cleaned u.chars = u.chars ∧
      u.chars.filter (· != '\t') = u.chars := by
  refine ⟨cleaned_eq_self hUrl.chars_visible, ?_⟩
  rw [List.filter_eq_self]
  refine Text.bne_of_not_mem fun hMem => ?_
  exact absurd (hUrl.chars_visible '\t' hMem) (by decide)

/- It names its authority. -/
theorem namesAuthority : NamesAuthority u.chars := by
  refine ⟨u.scheme, '/', '/', u.region h ++ u.rest, ?_, ?_,
    by decide, by decide⟩
  · rw [hUrl.cleaned_chars.2, chars_eq hUrl.named]
  · rw [lower_of_web hUrl.web]
    exact hUrl.web

/- Behind its slashes stand the authority and the rest. -/
theorem parse_eq_readSlashed :
    parse u.chars =
      readSlashed (.special port) u.scheme
        (u.region h ++ u.rest) := by
  have hLower := lower_of_web hUrl.web
  have hHead :
      ∀ c ∈ (u.region h ++ u.rest).head?, IsInside c := by
    have hInside := hUrl.region_inside
    rcases List.exists_cons_of_ne_nil (region_ne_nil hUrl.text)
      with ⟨c, more, hRegion⟩
    rw [hRegion, List.forall_mem_cons] at hInside
    rw [hRegion]
    rintro _ ⟨⟩
    exact hInside.1
  have hSlashes :
      ('/' :: '/' :: (u.region h ++ u.rest)).dropWhile
          (Scheme.isSlash (.special port)) =
        u.region h ++ u.rest := by
    have hBoth : ∀ c ∈ ['/', '/'], c ∈ ['/', '\\'] := by simp
    exact dropSlashes hBoth hHead
  have hSplit :
      splitScheme? (cleaned u.chars) =
        some (u.scheme, '/' :: '/' :: (u.region h ++ u.rest)) := by
    rw [hUrl.cleaned_chars.1, chars_eq hUrl.named,
      splitScheme?_of_web (hLower.symm ▸ hUrl.web), hLower]
  unfold parse
  rw [hSplit]
  dsimp only
  rw [hUrl.kind]
  dsimp only
  rw [hSlashes]

/- The authority ends where the path begins. -/
theorem readSlashed_eq_bind :
    readSlashed (.special port) u.scheme
        (u.region h ++ u.rest) =
      (readAuthority (.special port) u.scheme (u.region h)
        false).bind fun (v, left) =>
          .ok (complete (.special port) v (left ++ u.rest)) := by
  have hEnds :
      ∀ c ∈ u.region h,
        (!(Scheme.special port).endsAuthority c) = true := by
    intro c hMem
    rw [endsAuthority_special.mpr (hUrl.region_inside c hMem).2]
    rfl
  have hStop :
      (!(Scheme.special port).endsAuthority '/') = false := by
    simp [Scheme.endsAuthority, Scheme.isSlash]
  rcases hUrl.written.rest_eq_cons with ⟨after, hRest⟩
  unfold readSlashed
  rw [hRest, Text.takeWhile_stop hEnds hStop,
    Text.dropWhile_stop hEnds hStop]
  rfl

/- The text is read as the URL if its host is. -/
theorem parse_chars
    (hReads : h.ReadsBack) : parse u.chars = .ok u := by
  rw [hUrl.parse_eq_readSlashed, hUrl.readSlashed_eq_bind,
    readAuthority_region hUrl.written hReads]
  refine congrArg Except.ok ?_
  rw [List.nil_append, complete_rest hUrl.written, ← hUrl.named]

/- No other host lets it be read as the URL. -/
theorem parse_chars_iff :
    parse u.chars = .ok u ↔ h.ReadsBack := by
  refine ⟨fun hParse => ?_, hUrl.parse_chars⟩
  rw [hUrl.parse_eq_readSlashed, hUrl.readSlashed_eq_bind]
    at hParse
  rcases bind_eq_ok hParse with ⟨⟨v, left⟩, hAuthority, hWhole⟩
  have hSame :
      complete (.special port) v (left ++ u.rest) = u :=
    Except.ok.inj hWhole
  have hHost : v.host = u.host := by
    rw [← hSame]
    rfl
  have hAt : '@' ∉ h.chars ++ u.portChars :=
    fun hMem => (place_inside hUrl.text '@' hMem).2 rfl
  have hParts := readAuthority_eq_ok hAuthority
  rw [region, splitLastAt_append hAt] at hParts
  dsimp only at hParts
  rw [hUrl.text.splitPort (beginsPort_portChars u)] at hParts
  rcases hParts with ⟨h', port?, hRead, _, rfl⟩
  rw [hUrl.named] at hHost
  cases hHost
  exact hRead

end IsWebUrl

end Url

end UrlShortener
