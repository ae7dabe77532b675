import UrlShortener.Proofs.Text.Escapes
import UrlShortener.Proofs.Url.Domain

/-
  The text of every URL that was read is printable: names of
  hosts are written in ASCII, and every other part is
  escaped or made of digits.

  Key definitions include:
    * `Url.IsPrintable`

  Main declarations:
    * `IsHostText.printable`
    * `Url.escape_printable`
    * `Url.ofText_printable`
-/

------------------------------------------------------------
-- Hosts
------------------------------------------------------------

namespace UrlShortener

open Text (IsPrintable Printable printable_nil printable_cons
  printable_append)

theorem Domain.IsAllowed.printable
    {c : Char}
    (hAllowed : IsAllowed c) : IsPrintable c := by
  rcases hAllowed with ⟨hAscii, hAllowed⟩
  simp only [isForbidden, Bool.or_eq_false_iff,
    decide_eq_false_iff_not] at hAllowed
  unfold IsPrintable
  omega

/- The hosts of special schemes are printable. -/
theorem IsHostText.printable
    {cs : List Char}
    (hText : IsHostText cs) : Printable cs := by
  intro c hMem
  have hMarks :
      ("[:]".toList.all fun d => decide (IsPrintable d)) =
        true := by decide
  rcases hText.marks c hMem with hMark | hAllowed
  · exact of_decide_eq_true (List.all_eq_true.mp hMarks c hMark)
  · exact hAllowed.printable

/-
  A part is printable once it is escaped with a set that
  holds the control characters.
-/
theorem Url.escape_printable
    {inSet : Char → Bool}
    (hControls :
      ∀ c, Host.isControl c = true → inSet c = true)
    (cs : List Char) :
    Printable (Percent.escape inSet cs) := by
  refine Percent.escape_printable ?_ cs
  intro c hAscii hKept
  have hPlain : ¬ Host.isControl c = true := by
    intro hControl
    rw [hControls c hControl] at hKept
    cases hKept
  rw [Host.isControl, Bool.or_eq_true, not_or,
    decide_eq_true_eq, decide_eq_true_eq] at hPlain
  unfold IsPrintable
  omega

/- The hosts of schemes that are not special are, too. -/
theorem Host.ofOther_printable
    {cs : List Char}
    {h : Host}
    (hRead : ofOther cs = .ok h) : Printable h.chars := by
  unfold ofOther at hRead
  split at hRead
  · rcases bracketed_eq_ok hRead with ⟨groups, _, rfl⟩
    exact (isHostText_ipv6 groups).printable
  · split at hRead
    · cases hRead
    · cases hRead
      exact Url.escape_printable (fun _ hControl => hControl) _

end UrlShortener

------------------------------------------------------------
-- URLs
------------------------------------------------------------

namespace UrlShortener

open Text (IsPrintable Printable printable_nil printable_cons
  printable_append)

namespace Url

/- A URL all of whose parts are printable. -/
structure IsPrintable (u : Url) : Prop where
  scheme : Printable u.scheme
  username : Printable u.username
  password : ∀ part ∈ u.password, Printable part
  host : ∀ h ∈ u.host, Printable h.chars
  path : Printable u.path
  query : ∀ part ∈ u.query, Printable part
  fragment : ∀ part ∈ u.fragment, Printable part

theorem marked_printable
    {mark : Char}
    {part? : Option (List Char)}
    (hMark : Text.IsPrintable mark)
    (hPart : ∀ part ∈ part?, Printable part) :
    Printable (marked mark part?) := by
  cases part? with
  | none => exact printable_nil
  | some part =>
      exact printable_cons.mpr ⟨hMark, hPart part rfl⟩

namespace IsPrintable

variable {u : Url}

theorem credentials (hParts : u.IsPrintable) :
    Printable u.credentials := by
  unfold Url.credentials
  dsimp only
  split
  · exact printable_nil
  · rw [printable_append, printable_append]
    refine ⟨⟨hParts.username, ?_⟩, by decide⟩
    split
    · rename_i secret hSecret
      rw [printable_cons]
      exact ⟨by decide, hParts.password secret hSecret⟩
    · exact printable_nil

theorem authority (hParts : u.IsPrintable) :
    Printable u.authority := by
  unfold Url.authority
  split
  · rename_i h hHost
    have hPort : Printable u.portChars := by
      unfold portChars
      split
      · rw [printable_cons]
        exact ⟨by decide, Text.printable_toString _⟩
      · exact printable_nil
    simp only [List.cons_append, printable_cons,
      printable_append]
    exact ⟨by decide, by decide,
      ⟨hParts.credentials, hParts.host h hHost⟩, hPort⟩
  · split
    · decide
    · exact printable_nil

/- Its text is printable then. -/
theorem chars (hParts : u.IsPrintable) :
    Printable u.chars := by
  unfold Url.chars
  simp only [printable_append, printable_cons]
  exact ⟨⟨⟨⟨hParts.scheme, by decide, hParts.authority⟩,
    hParts.path⟩,
    marked_printable (by decide) hParts.query⟩,
    marked_printable (by decide) hParts.fragment⟩

end IsPrintable

/- What is escaped in the parts of a URL. -/
theorem user_printable (cs : List Char) :
    Printable (Percent.escape escapedInUser cs) :=
  escape_printable
    (fun c hControl => by
      simp [escapedInUser, escapedInPath, escapedInFragment,
        hControl]) cs

theorem part_printable (cs : List Char) :
    Printable (Percent.escape escapedInPath cs) :=
  escape_printable
    (fun c hControl => by
      simp [escapedInPath, escapedInFragment, hControl]) cs

theorem query_printable (s : Scheme) (cs : List Char) :
    Printable (Percent.escape (escapedInQuery s) cs) :=
  escape_printable
    (fun c hControl => by simp [escapedInQuery, hControl]) cs

theorem fragment_printable (cs : List Char) :
    Printable (Percent.escape escapedInFragment cs) :=
  escape_printable
    (fun c hControl => by
      simp [escapedInFragment, hControl]) cs

theorem readTail_printable (s : Scheme) (cs : List Char) :
    (∀ part ∈ (readTail s cs).1, Printable part) ∧
      ∀ part ∈ (readTail s cs).2, Printable part :=
  readTail_forall (query_printable s) fragment_printable cs

/- Walking along printable parts leaves printable ones. -/
theorem walk_printable
    {done rest : List (List Char)}
    (hDone : ∀ part ∈ done, Printable part)
    (hRest : ∀ part ∈ rest, Printable part) :
    ∀ part ∈ walk done rest, Printable part :=
  walk_forall printable_nil hDone
    fun part hPart _ _ => hRest part hPart

theorem pathChars_printable
    {parts : List (List Char)}
    (hParts : ∀ part ∈ parts, Printable part) :
    Printable (pathChars parts) := by
  refine Printable.flatMap ?_
  intro part hPart
  rw [printable_cons]
  exact ⟨by decide, hParts part hPart⟩

theorem parts_printable (s : Scheme) (cs : List Char) :
    ∀ part ∈ parts s cs, Printable part := by
  intro part hPart
  rcases List.mem_map.mp hPart with ⟨word, _, rfl⟩
  exact part_printable word

theorem readPath_printable (s : Scheme) (cs : List Char) :
    Printable (readPath s cs) := by
  unfold readPath
  split
  · exact printable_nil
  · exact pathChars_printable
      (walk_printable nofun (parts_printable s cs))

/- The parts after the authority are printable, too. -/
theorem complete_printable
    {u : Url}
    (hParts : u.IsPrintable)
    (s : Scheme)
    (cs : List Char) : (complete s u cs).IsPrintable where
  scheme := hParts.scheme
  username := hParts.username
  password := hParts.password
  host := hParts.host
  path := readPath_printable s _
  query := (readTail_printable s _).1
  fragment := (readTail_printable s _).2

theorem readAuthority_printable
    {s : Scheme}
    {scheme region left : List Char}
    {isLast : Bool}
    {u : Url}
    (hScheme : Printable scheme)
    (hRead :
      readAuthority s scheme region isLast = .ok (u, left)) :
    u.IsPrintable := by
  have hUser := readUser_forall user_printable
  have hParts
      {h : Host}
      {port? : Option Nat}
      {cs : List Char}
      (hHost : Printable h.chars) :
      Url.IsPrintable
        { scheme, username := (readUser cs).1
          password := (readUser cs).2
          host := some h
          port := port?
          path := [], query := none, fragment := none } := by
    refine ⟨hScheme, (hUser cs).1,
      fun secret hSecret => ((hUser cs).2 secret hSecret).2, ?_,
      printable_nil, nofun, nofun⟩
    intro other hOther
    cases hOther
    exact hHost
  rcases readAuthority_eq_ok hRead with
    ⟨h, port?, hHost, _, rfl⟩
  refine hParts ?_
  cases s with
  | other => exact Host.ofOther_printable hHost
  | _ => exact (Host.isHostText_of_ofDomain hHost).printable

theorem readSlashed_printable
    {s : Scheme}
    {scheme cs : List Char}
    {u : Url}
    (hScheme : Printable scheme)
    (hRead : readSlashed s scheme cs = .ok u) :
    u.IsPrintable := by
  rcases bind_eq_ok hRead with ⟨⟨v, left⟩, hAuthority, hRead⟩
  cases hRead
  exact complete_printable
    (readAuthority_printable hScheme hAuthority) s _

theorem bare_printable
    {scheme : List Char}
    (hScheme : Printable scheme) :
    (bare scheme).IsPrintable :=
  ⟨hScheme, printable_nil, nofun, nofun, printable_nil,
    nofun, nofun⟩

theorem ofDrive_printable
    {given path : List (List Char)}
    (hGiven : ∀ part ∈ given, Printable part)
    (hDrive : ofDrive given = some path) :
    ∀ part ∈ path, Printable part := by
  unfold ofDrive at hDrive
  split at hDrive
  · rename_i first rest
    split at hDrive
    · cases hDrive
      rcases List.forall_mem_cons.mp hGiven with
        ⟨hFirst, hRest⟩
      refine List.forall_mem_cons.mpr ⟨?_, hRest⟩
      rw [printable_append]
      exact ⟨hFirst.subset (List.take_subset 1 first),
        by decide⟩
    · cases hDrive
  · cases hDrive

theorem fileOn_printable
    {scheme : List Char}
    {host : Host}
    (hScheme : Printable scheme)
    (hHost : Printable host.chars)
    (cs : List Char) : (fileOn scheme host cs).IsPrintable := by
  have hPath
      {parts : List (List Char)}
      (hParts : ∀ part ∈ parts, Printable part) :
      Printable (singleSlash (pathChars (walk [] parts))) := by
    have hWalked : ∀ part ∈ walk [] parts, Printable part :=
      walk_printable nofun hParts
    rw [singleSlash, printable_cons]
    exact ⟨by decide,
      (pathChars_printable hWalked).subset
        (List.dropWhile_subset _)⟩
  have hGiven := parts_printable .file
    (cs.takeWhile fun c => !endsPath c)
  have hTail := readTail_printable .file
    (cs.dropWhile fun c => !endsPath c)
  have hBare := bare_printable hScheme
  unfold fileOn
  dsimp only
  split
  · rename_i path hDrive
    refine
      ⟨hBare.scheme, hBare.username, hBare.password, ?_,
        hPath (ofDrive_printable hGiven hDrive),
        hTail.1, hTail.2⟩
    intro h hOwn
    cases hOwn
    exact printable_nil
  · refine
      ⟨hBare.scheme, hBare.username, hBare.password, ?_,
        hPath hGiven, hTail.1, hTail.2⟩
    intro h hGivenHost
    cases hGivenHost
    exact hHost

theorem readFile_printable
    {scheme cs : List Char}
    {u : Url}
    (hScheme : Printable scheme)
    (hRead : readFile scheme cs = .ok u) :
    u.IsPrintable := by
  rcases readFile_eq_ok hRead with ⟨host, rest, rfl, hHost⟩
  refine fileOn_printable hScheme ?_ rest
  rcases hHost with rfl | ⟨name, hName⟩
  · exact printable_nil
  · exact (Host.isHostText_of_ofDomain hName).printable

theorem readOther_printable
    {scheme cs : List Char}
    {u : Url}
    (hScheme : Printable scheme)
    (hRead : readOther scheme cs = .ok u) :
    u.IsPrintable := by
  unfold readOther at hRead
  split at hRead
  · exact readSlashed_printable hScheme hRead
  · cases hRead
    exact complete_printable (bare_printable hScheme) _ _
  · cases hRead
    have hTail (cs : List Char) := readTail_printable .other cs
    exact
      { bare_printable hScheme with
          path := escape_printable (fun _ hControl => hControl) _
          query := (hTail _).1
          fragment := (hTail _).2 }

/- Schemes are made of letters, digits and a few marks. -/
theorem toLower_printable
    {c : Char}
    (hScheme : isSchemeChar c = true) :
    Text.IsPrintable c.toLower := by
  have hAscii : c.toNat < 0x80 := by
    have hKinds := hScheme
    simp only [isSchemeChar, Bool.or_eq_true, beq_iff_eq]
      at hKinds
    rcases hKinds with ((hLetter | rfl) | rfl) | rfl
    · exact Utf8.ascii_of_isAlphanum hLetter
    · decide
    · decide
    · decide
  have hLower :
      isSchemeChar c = true → Text.IsPrintable c.toLower :=
    Utf8.forall_ascii (by decide +kernel) hAscii
  exact hLower hScheme

theorem splitScheme?_printable
    {cs scheme rest : List Char}
    (hSplit : splitScheme? cs = some (scheme, rest)) :
    Printable scheme := by
  unfold splitScheme? at hSplit
  split at hSplit
  · cases hSplit
  · split at hSplit
    · split at hSplit
      · cases hSplit
        intro c hChar
        rcases List.mem_map.mp hChar with ⟨d, hMem, rfl⟩
        exact toLower_printable
          (List.all_eq_true.mp List.all_takeWhile d hMem)
      · cases hSplit
    · cases hSplit

/- The text of a URL that was read is printable. -/
theorem ofText_printable
    {s : String}
    {u : Url}
    (hRead : ofText s = .ok u) : Printable u.chars := by
  apply IsPrintable.chars
  unfold ofText parse at hRead
  split at hRead
  · cases hRead
  · rename_i scheme rest hSplit
    have hScheme := splitScheme?_printable hSplit
    split at hRead
    · exact readSlashed_printable hScheme hRead
    · exact readFile_printable hScheme hRead
    · exact readOther_printable hScheme hRead

end Url

end UrlShortener
