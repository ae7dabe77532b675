import UrlShortener.Proofs.Url.Domain

/-
  What a URL with a special scheme is made of once it was
  read. Its parts are escaped already, its path has no dots
  and its port is none that its scheme implies.

  Key definitions include:
    * `Url.IsPart`
    * `Url.IsWritten`

  Main declarations:
    * `Url.readPath_parts`
    * `Url.isWritten_of_parse`
-/

------------------------------------------------------------
-- Escaped Parts
------------------------------------------------------------

namespace UrlShortener

namespace Url

open Percent (Escaped KeepsEscapes keepsEscapes_of_tried)

theorem keepsEscapes_user : KeepsEscapes escapedInUser :=
  keepsEscapes_of_tried (by decide)

theorem keepsEscapes_path : KeepsEscapes escapedInPath :=
  keepsEscapes_of_tried (by decide)

theorem keepsEscapes_fragment :
    KeepsEscapes escapedInFragment :=
  keepsEscapes_of_tried (by decide)

theorem keepsEscapes_query (s : Scheme) :
    KeepsEscapes (escapedInQuery s) := by
  unfold escapedInQuery
  generalize s.isSpecial = special
  refine keepsEscapes_of_tried ?_
  cases special <;> decide

/- No escape has a slash. -/
theorem keepsEscapes_slash (s : Scheme) :
    KeepsEscapes s.isSlash := by
  unfold Scheme.isSlash
  generalize s.isSpecial = special
  refine keepsEscapes_of_tried ?_
  cases special <;> decide

end Url

end UrlShortener

------------------------------------------------------------
-- Paths
------------------------------------------------------------

namespace UrlShortener

namespace Url

open Percent (Escaped)

/- A part of a path that is kept wherever it stands. -/
structure IsPart (s : Scheme) (part : List Char) : Prop where
  escaped : Escaped escapedInPath part
  whole : ∀ c ∈ part, s.isSlash c = false
  not_up : isDoubleDot part = false
  not_dot : isSingleDot part = false

theorem isPart_nil (s : Scheme) : IsPart s [] :=
  ⟨List.forall_mem_nil _, List.forall_mem_nil _, rfl, rfl⟩

theorem parts_ne_nil (s : Scheme) (cs : List Char) :
    parts s cs ≠ [] := by
  intro hNone
  exact Text.splitWhere_ne_nil _ _ (List.map_eq_nil_iff.mp hNone)

/- The parts of a path are escaped and have no slashes. -/
theorem escaped_parts
    (s : Scheme)
    (cs : List Char) :
    ∀ part ∈ parts s cs,
      Escaped escapedInPath part ∧
        ∀ c ∈ part, s.isSlash c = false := by
  intro part hPart
  rcases List.mem_map.mp hPart with ⟨word, hWord, rfl⟩
  refine ⟨keepsEscapes_path.escaped_escape word, ?_⟩
  intro c hMem
  rcases Percent.mem_escape hMem with hEscape | ⟨hOwn, _⟩
  · exact keepsEscapes_slash s c hEscape
  · exact Text.forall_mem_splitWhere _ _ word hWord c hOwn

/- The path of a special scheme has at least one part. -/
theorem readPath_parts
    {s : Scheme}
    (hSpecial : s.isSpecial = true)
    (cs : List Char) :
    ∃ parts ≠ [],
      readPath s cs = pathChars parts ∧
        ∀ part ∈ parts, IsPart s part := by
  refine ⟨walk [] (parts s cs),
    walk_ne_nil [] (parts_ne_nil s cs), ?_, ?_⟩
  · unfold readPath
    rw [hSpecial, Bool.not_true, Bool.and_false]
    exact if_neg Bool.false_ne_true
  · refine walk_forall (isPart_nil s) (List.forall_mem_nil _) ?_
    intro part hPart hUp hDot
    rcases escaped_parts s cs part hPart with
      ⟨hEscaped, hWhole⟩
    exact ⟨hEscaped, hWhole, hUp, hDot⟩

end Url

end UrlShortener

------------------------------------------------------------
-- URLs
------------------------------------------------------------

namespace UrlShortener

namespace Url

open Percent (Escaped)

/- What a URL on a host is made of, after its scheme. -/
structure IsWritten (s : Scheme) (u : Url) : Prop where
  username : Escaped escapedInUser u.username
  password :
    ∀ secret ∈ u.password,
      secret ≠ [] ∧ Escaped escapedInUser secret
  host :
    ∃ h name, u.host = some h ∧ Host.ofDomain name = .ok h
  port : ∀ n ∈ u.port, n ≤ maxPort ∧ s ≠ .special n
  path :
    ∃ parts ≠ [],
      u.path = pathChars parts ∧ ∀ part ∈ parts, IsPart s part
  query : ∀ part ∈ u.query, Escaped (escapedInQuery s) part
  fragment : ∀ part ∈ u.fragment, Escaped escapedInFragment part

/- What was read behind the slashes is made of that. -/
theorem isWritten_of_readSlashed
    {port : Nat}
    {scheme cs : List Char}
    {u : Url}
    (hRead :
      readSlashed (.special port) scheme cs = .ok u) :
    u.IsWritten (.special port) := by
  rcases bind_eq_ok hRead with ⟨⟨v, left⟩, hAuthority, hUrl⟩
  cases hUrl
  rcases readAuthority_eq_ok hAuthority with
    ⟨h, port?, hHost, hPort, rfl⟩
  have hUser := readUser_forall keepsEscapes_user.escaped_escape
  have hTail := readTail_forall
    (keepsEscapes_query (.special port)).escaped_escape
    keepsEscapes_fragment.escaped_escape
  exact {
    username := (hUser _).1
    password := (hUser _).2
    host := ⟨h, _, rfl, hHost⟩
    port := by
      intro n hSome
      cases hSome
      exact readPort_eq_some hPort
    path := readPath_parts rfl _
    query := (hTail _).1
    fragment := (hTail _).2 }

/- So is every URL with a special scheme. -/
theorem isWritten_of_parse
    {port : Nat}
    {cs : List Char}
    {u : Url}
    (hParse : parse cs = .ok u)
    (hKind : Scheme.kind u.scheme = .special port) :
    u.IsWritten (.special port) := by
  rcases splitScheme?_of_parse hParse with ⟨rest, hSplit⟩
  unfold parse at hParse
  rw [hSplit] at hParse
  dsimp only at hParse
  rw [hKind] at hParse
  exact isWritten_of_readSlashed hParse

end Url

end UrlShortener
