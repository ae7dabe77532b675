import UrlShortener.Proofs.Url.Reading

/-
  How a text is read where a URL is open already, such as
  the location of a redirect by the browser that asked for
  it. A text that names its authority leads to the same URL
  from everywhere. A web URL without one leads to a place on
  the open authority, if the schemes are the same.

  Key definitions include:
    * `Url.resolve`
    * `Url.NamesAuthority`
    * `Url.SameAuthority`

  Main declarations:
    * `Url.namesAuthority_iff`
    * `Url.resolve_of_namesAuthority`
    * `Url.resolve_of_scheme`
    * `Url.resolve_of_unnamed`
-/

------------------------------------------------------------
-- Relative Texts
------------------------------------------------------------

namespace UrlShortener

namespace Url

/- How many slashes stand in front of a text. -/
def slashes (s : Scheme) (cs : List Char) : Nat :=
  (cs.takeWhile s.isSlash).length

/- The parts of a path that stand above its last one. -/
def partsAbove (u : Url) : List (List Char) :=
  (Text.split '/' (u.path.drop 1)).dropLast

/-
  Read what follows the scheme of a base, or would follow
  it. Two slashes begin an authority and one begins a path.
  Anything else is read behind the path of the base, from
  whose last part a new path goes on.
-/
def readRelative (base : Url) (cs : List Char) :
    Except UrlFault Url :=
  let s := Scheme.kind base.scheme
  if 2 ≤ slashes s cs then
    readSlashed s base.scheme (cs.dropWhile s.isSlash)
  else
    let place := cs.takeWhile fun c => !endsPath c
    let (query, fragment) :=
      readTail s (cs.dropWhile fun c => !endsPath c)
    match place with
    | [] =>
        .ok { base with query := query <|> base.query, fragment }
    | c :: _ =>
        let above :=
          if s.isSlash c then [] else base.partsAbove
        .ok {
          base with
          path := pathChars (walk above.reverse (parts s place))
          query, fragment }

/-
  Read a text where a web URL is open. A scheme stands for
  itself, unless it is that of the open URL and is not
  followed by two slashes.
-/
def resolve (base : Url) (cs : List Char) :
    Except UrlFault Url :=
  match splitScheme? (cleaned cs) with
  | none => readRelative base (cleaned cs)
  | some (scheme, rest) =>
      match Scheme.kind scheme with
      | .special port =>
          if scheme = base.scheme
              ∧ slashes (.special port) rest < 2 then
            readRelative base rest
          else
            parse cs
      | _ => parse cs

/- The schemes of the web. -/
def webSchemes : List (List Char) :=
  ["http".toList, "https".toList]

/-
  A text that names its authority: with tabs dropped, it
  begins with a scheme of the web in any letter case, a
  colon and two slashes of either kind.
-/
def NamesAuthority (cs : List Char) : Prop :=
  ∃ scheme a b rest,
    cs.filter (· != '\t') = scheme ++ ':' :: a :: b :: rest ∧
      scheme.map Char.toLower ∈ webSchemes ∧
      a ∈ ['/', '\\'] ∧ b ∈ ['/', '\\']

/- A URL with the user, the host and the port of another. -/
structure SameAuthority (u base : Url) : Prop where
  scheme : u.scheme = base.scheme
  username : u.username = base.username
  password : u.password = base.password
  host : u.host = base.host
  port : u.port = base.port

/- With fewer than two slashes, the authority stays. -/
theorem readRelative_of_few_slashes
    {base : Url}
    {cs : List Char}
    (hFew : slashes (Scheme.kind base.scheme) cs < 2) :
    ∃ u, readRelative base cs = .ok u ∧
      u.SameAuthority base := by
  unfold readRelative
  dsimp only
  rw [if_neg (Nat.not_le.mpr hFew)]
  split
  · exact ⟨_, rfl, rfl, rfl, rfl, rfl, rfl⟩
  · exact ⟨_, rfl, rfl, rfl, rfl, rfl, rfl⟩

end Url

end UrlShortener

------------------------------------------------------------
-- Schemes And Slashes
------------------------------------------------------------

namespace UrlShortener

namespace Url

/- A scheme that was found stands in front of its colon. -/
theorem splitScheme?_eq_some
    {cs scheme rest : List Char}
    (hSplit : splitScheme? cs = some (scheme, rest)) :
    ∃ name, cs = name ++ ':' :: rest ∧
      scheme = name.map Char.toLower := by
  unfold splitScheme? at hSplit
  split at hSplit
  · cases hSplit
  · rename_i c more
    split at hSplit
    · split at hSplit
      · rename_i rest' hRest
        cases hSplit
        refine ⟨(c :: more).takeWhile isSchemeChar, ?_, rfl⟩
        rw [← hRest, List.takeWhile_append_dropWhile]
      · cases hSplit
    · cases hSplit

theorem isAlpha_of_toLower
    {c : Char}
    (hLower : c.toLower.isAlpha = true) : c.isAlpha = true := by
  unfold Char.toLower at hLower
  split at hLower
  · rename_i hRange
    have hUpper : c.isUpper = true := decide_eq_true hRange
    exact Bool.or_eq_true_iff.mpr (.inl hUpper)
  · exact hLower

/- The schemes of the web are made of letters. -/
theorem isAlpha_of_web
    {name : List Char}
    (hWeb : name.map Char.toLower ∈ webSchemes) :
    ∀ c ∈ name, c.isAlpha = true := by
  intro c hMem
  have hAll :
      (webSchemes.all fun scheme => scheme.all Char.isAlpha) =
        true := by decide
  have hScheme := List.all_eq_true.mp hAll _ hWeb
  exact isAlpha_of_toLower
    (List.all_eq_true.mp hScheme _ (List.mem_map_of_mem hMem))

/- A scheme of the web is found in any letter case. -/
theorem splitScheme?_of_web
    {name : List Char}
    (hWeb : name.map Char.toLower ∈ webSchemes)
    (rest : List Char) :
    splitScheme? (name ++ ':' :: rest) =
      some (name.map Char.toLower, rest) := by
  have hLetters := isAlpha_of_web hWeb
  have hSome : name ≠ [] := by
    rintro rfl
    revert hWeb
    decide
  rcases List.exists_cons_of_ne_nil hSome with ⟨c, more, rfl⟩
  apply splitScheme?_append
  · exact hLetters c List.mem_cons_self
  · intro d hMem
    rw [isSchemeChar, Char.isAlphanum, hLetters d hMem]
    rfl

/- The schemes of the web are special, so both slashes count. -/
theorem kind_of_web
    {scheme : List Char}
    (hWeb : scheme ∈ webSchemes) :
    ∃ port, Scheme.kind scheme = .special port := by
  rcases List.mem_pair.mp hWeb with rfl | rfl
  · exact ⟨80, by decide⟩
  · exact ⟨443, by decide⟩

theorem isSlash_special {port : Nat} {c : Char} :
    Scheme.isSlash (.special port) c = true ↔
      c ∈ ['/', '\\'] := by
  simp [Scheme.isSlash, Scheme.isSpecial]

/- Two slashes are the first two characters. -/
theorem two_le_slashes_iff
    {s : Scheme}
    {cs : List Char} :
    2 ≤ slashes s cs ↔
      ∃ a b rest, cs = a :: b :: rest ∧
        s.isSlash a = true ∧ s.isSlash b = true := by
  constructor
  · intro hTwo
    match cs with
    | [] => cases hTwo
    | [a] =>
        have hOne :=
          (List.takeWhile_sublist (l := [a]) s.isSlash).length_le
        exact absurd (Nat.le_trans hTwo hOne) (by simp)
    | a :: b :: rest =>
        refine ⟨a, b, rest, rfl, ?_⟩
        unfold slashes at hTwo
        cases hA : s.isSlash a with
        | false =>
            rw [List.takeWhile_cons, hA] at hTwo
            cases hTwo
        | true =>
            cases hB : s.isSlash b with
            | false =>
                rw [List.takeWhile_cons, hA, if_pos rfl,
                  List.takeWhile_cons, hB] at hTwo
                exact absurd hTwo (by simp)
            | true => exact ⟨rfl, rfl⟩
  · rintro ⟨a, b, rest, rfl, hA, hB⟩
    rw [slashes, List.takeWhile_cons_of_pos hA,
      List.takeWhile_cons_of_pos hB]
    simp

/- What a text names is found at its beginning. -/
theorem namesAuthority_iff {cs : List Char} :
    NamesAuthority cs ↔
      ∃ found, splitScheme? (cs.filter (· != '\t')) = some found ∧
        found.1 ∈ webSchemes ∧
        2 ≤ slashes (Scheme.kind found.1) found.2 := by
  constructor
  · rintro ⟨name, a, b, rest, hText, hWeb, hA, hB⟩
    rcases kind_of_web hWeb with ⟨port, hKind⟩
    refine ⟨(name.map Char.toLower, a :: b :: rest), ?_, hWeb, ?_⟩
    · rw [hText, splitScheme?_of_web hWeb]
    · rw [hKind, two_le_slashes_iff]
      exact ⟨a, b, rest, rfl, isSlash_special.mpr hA,
        isSlash_special.mpr hB⟩
  · rintro ⟨⟨scheme, rest⟩, hSplit, hWeb, hTwo⟩
    dsimp only at hWeb hTwo
    rcases kind_of_web hWeb with ⟨port, hKind⟩
    rcases splitScheme?_eq_some hSplit with ⟨name, hText, rfl⟩
    rw [hKind, two_le_slashes_iff] at hTwo
    rcases hTwo with ⟨a, b, rest, rfl, hA, hB⟩
    exact ⟨name, a, b, rest, hText, hWeb,
      isSlash_special.mp hA, isSlash_special.mp hB⟩

instance : DecidablePred NamesAuthority := fun cs =>
  match hFound : splitScheme? (cs.filter (· != '\t')) with
  | none => .isFalse fun hNames => by
      rcases namesAuthority_iff.mp hNames with ⟨_, hSplit, _⟩
      rw [hFound] at hSplit
      cases hSplit
  | some found =>
      decidable_of_iff
        (found.1 ∈ webSchemes ∧
          2 ≤ slashes (Scheme.kind found.1) found.2)
        (by simp [namesAuthority_iff, hFound])

end Url

end UrlShortener

------------------------------------------------------------
-- Where Texts Lead
------------------------------------------------------------

namespace UrlShortener

namespace Url

variable {cs : List Char} {u : Url}

/- A text that names its authority leads to its own URL. -/
theorem resolve_of_namesAuthority
    (hCleaned : cleaned cs = cs.filter (· != '\t'))
    (hNames : NamesAuthority cs)
    (base : Url) : resolve base cs = parse cs := by
  rcases namesAuthority_iff.mp hNames with
    ⟨⟨scheme, rest⟩, hSplit, hWeb, hTwo⟩
  dsimp only at hWeb hTwo
  rcases kind_of_web hWeb with ⟨port, hKind⟩
  rw [hKind] at hTwo
  unfold resolve
  rw [hCleaned, hSplit]
  dsimp only
  rw [hKind]
  exact if_neg fun hBoth => Nat.not_lt.mpr hTwo hBoth.2

/- So does one whose scheme is not that of the open URL. -/
theorem resolve_of_scheme
    {base : Url}
    (hParse : parse cs = .ok u)
    (hScheme : base.scheme ≠ u.scheme) :
    resolve base cs = .ok u := by
  rcases splitScheme?_of_parse hParse with ⟨rest, hSplit⟩
  unfold resolve
  rw [hSplit]
  dsimp only
  split
  · rw [if_neg fun hBoth => hScheme hBoth.1.symm, hParse]
  · exact hParse

/- Any other web URL leads to a place on the open authority. -/
theorem resolve_of_unnamed
    {base : Url}
    (hCleaned : cleaned cs = cs.filter (· != '\t'))
    (hParse : parse cs = .ok u)
    (hWeb : u.scheme ∈ webSchemes)
    (hScheme : base.scheme = u.scheme)
    (hUnnamed : ¬ NamesAuthority cs) :
    ∃ r, resolve base cs = .ok r ∧ r.SameAuthority base := by
  rcases splitScheme?_of_parse hParse with ⟨rest, hSplit⟩
  rcases kind_of_web hWeb with ⟨port, hKind⟩
  have hFew : slashes (Scheme.kind u.scheme) rest < 2 := by
    rw [← Nat.not_le]
    intro hTwo
    exact hUnnamed (namesAuthority_iff.mpr
      ⟨(u.scheme, rest), hCleaned ▸ hSplit, hWeb, hTwo⟩)
  have hFewHere : slashes (Scheme.kind base.scheme) rest < 2 := by
    rw [hScheme]
    exact hFew
  rcases readRelative_of_few_slashes hFewHere with
    ⟨r, hRead, hSame⟩
  refine ⟨r, ?_, hSame⟩
  rw [hKind] at hFew
  unfold resolve
  rw [hSplit]
  dsimp only
  rw [hKind]
  exact (if_pos ⟨hScheme.symm, hFew⟩).trans hRead

end Url

end UrlShortener
