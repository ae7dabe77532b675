import UrlShortener.Proofs.Url.Printable
import UrlShortener.Proofs.Url.RoundTrip
import UrlShortener.Text.Blank

/-
  Ordinary host names, in small ASCII letters and without
  encoded labels, are read as they are written. None of the
  tables of characters has to be consulted for them: those
  of the right-to-left classes hold no ASCII characters. A
  host is found behind a scheme and any number of slashes.

  Key definitions include:
    * `Domain.IsOrdinary`
    * `Url.spelling`
    * `Url.IsSpelling`

  Main declarations:
    * `Unicode.isRightToLeft_of_ascii`
    * `Domain.IsOrdinary.toAscii?`
    * `Host.readsBack_of_ordinary`
    * `Url.IsSpelling.parse`
    * `Url.IsSpelling.namesAuthority_iff`
-/

------------------------------------------------------------
-- Directions Of ASCII Characters
------------------------------------------------------------

namespace UrlShortener

namespace Unicode

/- The ranges of a table, found among its characters. -/
theorem all_ranges
    {p : CharRange → Bool}
    {cs : List Char}
    (hAll :
      (((Text.splitWhere (fun c => c == ' ' || c == '\n') cs
        ).filter fun w => !w.isEmpty).map CharRange.read).all p =
          true) :
    (ranges (String.ofList cs)).all p = true := by
  rw [ranges, words, String.toList_ofList]
  exact hAll

/- A range that holds no ASCII character. -/
def beyondAscii (r : CharRange) : Bool :=
  0x80 ≤ r.first

set_option maxRecDepth 4000 in
theorem rightToLeft_beyondAscii :
    (ranges rightToLeftRows).all beyondAscii = true := by
  unfold rightToLeftRows
  exact all_ranges (by decide +kernel)

set_option maxRecDepth 4000 in
theorem arabicLetter_beyondAscii :
    (ranges arabicLetterRows).all beyondAscii = true := by
  unfold arabicLetterRows
  exact all_ranges (by decide +kernel)

set_option maxRecDepth 4000 in
theorem arabicNumber_beyondAscii :
    (ranges arabicNumberRows).all beyondAscii = true := by
  unfold arabicNumberRows
  exact all_ranges (by decide +kernel)

theorem not_isIn_of_ascii
    {rs : List CharRange}
    {c : Char}
    (hBeyond : rs.all beyondAscii = true)
    (hAscii : c.toNat < 0x80) : isIn rs c = false := by
  unfold isIn
  rw [List.any_eq_false]
  intro r hMem hHolds
  have hFirst := List.all_eq_true.mp hBeyond r hMem
  rw [beyondAscii, decide_eq_true_eq] at hFirst
  rw [CharRange.holds, Bool.and_eq_true, Bool.and_eq_true,
    decide_eq_true_eq] at hHolds
  omega

/- The classes whose labels run from right to left. -/
def rightToLeftClasses : List Direction :=
  [.rightToLeft, .arabicLetter, .arabicNumber]

theorem directions_beyondAscii :
    ∀ d ∈ directions, d.1 ∈ rightToLeftClasses →
      d.2.all beyondAscii = true := by
  have hOther
      {d : Direction}
      {rs : List CharRange}
      (hNone : d ∉ rightToLeftClasses) :
      d ∈ rightToLeftClasses → rs.all beyondAscii = true :=
    fun hMem => absurd hMem hNone
  unfold directions
  simp only [List.forall_mem_cons]
  exact ⟨fun _ => rightToLeft_beyondAscii,
    fun _ => arabicLetter_beyondAscii,
    fun _ => arabicNumber_beyondAscii,
    hOther (by decide), hOther (by decide), hOther (by decide),
    hOther (by decide), hOther (by decide), hOther (by decide),
    hOther (by decide), List.forall_mem_nil _⟩

/- No ASCII character runs from right to left. -/
theorem direction_of_ascii
    {c : Char}
    (hAscii : c.toNat < 0x80) :
    direction c ∉ rightToLeftClasses := by
  unfold direction
  cases hFound : directions.find? fun d => isIn d.2 c with
  | none => decide
  | some d =>
      intro hClass
      have hHolds := List.find?_some hFound
      have hBeyond := directions_beyondAscii d
        (List.mem_of_find?_eq_some hFound) hClass
      rw [not_isIn_of_ascii hBeyond hAscii] at hHolds
      cases hHolds

theorem isRightToLeft_of_ascii
    {label : List Char}
    (hAscii : ∀ c ∈ label, c.toNat < 0x80) :
    isRightToLeft label = false := by
  unfold isRightToLeft
  rw [List.any_eq_false]
  intro c hMem
  have hDirection := direction_of_ascii (hAscii c hMem)
  generalize direction c = d at hDirection ⊢
  revert hDirection
  cases d <;> decide

end Unicode

end UrlShortener

------------------------------------------------------------
-- Ordinary Names
------------------------------------------------------------

namespace UrlShortener

namespace Domain

/- A name in small letters without encoded labels. -/
structure IsOrdinary (cs : List Char) : Prop where
  allowed : ∀ c ∈ cs, IsAllowed c
  small : ∀ c ∈ cs, c.toLower = c
  readable :
    ∀ label ∈ Text.split '.' cs,
      encodedMark.isPrefixOf label = false

instance : DecidablePred IsOrdinary := fun cs =>
  have := List.decidableBAll IsAllowed cs
  have := List.decidableBAll (fun c => c.toLower = c) cs
  have := List.decidableBAll
    (fun label => encodedMark.isPrefixOf label = false)
    (Text.split '.' cs)
  decidable_of_iff
    ((∀ c ∈ cs, IsAllowed c) ∧ (∀ c ∈ cs, c.toLower = c) ∧
      ∀ label ∈ Text.split '.' cs,
        encodedMark.isPrefixOf label = false)
    ⟨fun ⟨hAllowed, hSmall, hReadable⟩ =>
        ⟨hAllowed, hSmall, hReadable⟩,
      fun hName =>
        ⟨hName.allowed, hName.small, hName.readable⟩⟩

namespace IsOrdinary

variable {cs : List Char}

theorem label_allowed
    (hName : IsOrdinary cs) :
    ∀ label ∈ Text.split '.' cs, ∀ c ∈ label, IsAllowed c :=
  fun _ hLabel c hMem =>
    hName.allowed c
      (Text.subset_of_mem_splitWhere hLabel hMem)

theorem label_ascii
    (hName : IsOrdinary cs) :
    ∀ label ∈ Text.split '.' cs, isAscii label = true := by
  intro label hLabel
  rw [isAscii, List.all_eq_true]
  exact fun c hMem =>
    decide_eq_true (hName.label_allowed label hLabel c hMem).1

/- Its characters are mapped to themselves. -/
theorem mapped?
    (hName : IsOrdinary cs) : Domain.mapped? cs = some cs := by
  have hChars :
      cs.mapM mapChar? = some (cs.map fun c => [c]) := by
    refine Text.mapM_eq_some fun c hMem => ?_
    rw [mapChar?, if_pos (hName.allowed c hMem).1,
      hName.small c hMem]
  have hAscii : (cs.all fun c => c.toNat < 0x80) = true := by
    rw [List.all_eq_true]
    exact fun c hMem => decide_eq_true (hName.allowed c hMem).1
  have hFlat : (cs.map fun c => [c]).flatten = cs := by
    rw [← List.flatMap_def, List.flatMap_singleton']
  rw [Domain.mapped?, hChars, Option.map_some, hFlat,
    Unicode.normalize, if_pos hAscii]

/- Its ASCII form is the name itself. -/
theorem toAscii?
    (hName : IsOrdinary cs) : Domain.toAscii? cs = some cs := by
  have hReadable :
      (Text.split '.' cs).mapM readable? =
        some (Text.split '.' cs) := by
    refine Text.mapM_eq_self fun label hLabel => ?_
    rw [readable?, hName.readable label hLabel]
    exact if_neg Bool.false_ne_true
  have hWritten :
      (Text.split '.' cs).mapM written? =
        some (Text.split '.' cs) := by
    refine Text.mapM_eq_self fun label hLabel => ?_
    rw [written?, if_pos (hName.label_ascii label hLabel)]
  have hFormed :
      (Text.split '.' cs).all isWellFormed = true := by
    rw [List.all_eq_true]
    intro label hLabel
    unfold isWellFormed
    rw [hName.label_ascii label hLabel, Bool.true_or]
  have hLeft :
      (Text.split '.' cs).any Unicode.isRightToLeft = false := by
    rw [List.any_eq_false]
    intro label hLabel
    rw [Unicode.isRightToLeft_of_ascii fun c hMem =>
      (hName.label_allowed label hLabel c hMem).1]
    exact Bool.false_ne_true
  have hAllowed :
      ((Text.split '.' cs).any fun label =>
        label.any isForbidden) = false := by
    rw [List.any_eq_false]
    intro label hLabel
    rw [Bool.not_eq_true, List.any_eq_false]
    intro c hMem
    rw [(hName.label_allowed label hLabel c hMem).2]
    exact Bool.false_ne_true
  unfold Domain.toAscii?
  rw [hName.mapped?]
  change (Option.bind ((Text.split '.' cs).mapM readable?) _) = _
  rw [hReadable, Option.bind_some]
  dsimp only
  rw [hFormed, hLeft, hAllowed, hWritten]
  exact congrArg some (Text.join_split '.' cs)

end IsOrdinary

end Domain

end UrlShortener

------------------------------------------------------------
-- Hosts With Ordinary Names
------------------------------------------------------------

namespace UrlShortener

open Domain (IsOrdinary)

/- No escape is undone in an ordinary name. -/
theorem Host.unescaped_of_ordinary
    {cs : List Char}
    (hName : IsOrdinary cs) : unescaped cs = cs := by
  have hNone : Percent.holdsEscape cs = false := by
    have hSign (c : Char) (hMem : c ∈ cs) : c ≠ '%' := by
      rintro rfl
      exact absurd (hName.allowed '%' hMem) (by decide)
    clear hName
    induction cs with
    | nil => rfl
    | cons c cs ih =>
        rcases List.forall_mem_cons.mp hSign with
          ⟨hFirst, hRest⟩
        rw [Percent.holdsEscape, beq_eq_false_iff_ne.mpr hFirst,
          Bool.false_and, Bool.false_or, ih hRest]
  unfold unescaped
  rw [Percent.unescape_eq_self_iff.mpr hNone]
  exact Utf8.decodeLossy_encode (Utf8.length_le_encode cs)

namespace Host

variable {cs : List Char}

/- It is an address if it ends like one, and a name if not. -/
theorem ofDomain_of_ordinary
    (hName : IsOrdinary cs)
    (hSome : cs ≠ []) :
    ofDomain cs =
      if Ipv4.endsInNumber cs then
        match Ipv4.read? cs with
        | some address => .ok (.ipv4 address)
        | none => .error .badIpv4
      else .ok (.name cs) := by
  have hAscii : Domain.toAscii? (unescaped cs) = some cs := by
    rw [unescaped_of_ordinary hName, hName.toAscii?]
  unfold ofDomain
  split
  · exact absurd (hName.allowed '[' List.mem_cons_self)
      (by decide)
  · rw [hAscii]
    split
    · rename_i hNone
      cases hNone
    · rename_i hEmpty
      cases hEmpty
      exact absurd rfl hSome
    · rename_i domain _ hSame
      cases hSame
      rfl

/- An ordinary name is read as itself. -/
theorem readsBack_of_ordinary
    (hName : IsOrdinary cs)
    (hSome : cs ≠ [])
    (hNumber : Ipv4.endsInNumber cs = false) :
    ReadsBack (.name cs) := by
  refine (ofDomain_of_ordinary hName hSome).trans ?_
  rw [hNumber]
  exact if_neg Bool.false_ne_true

end Host

end UrlShortener

------------------------------------------------------------
-- Spellings Of Web Hosts
------------------------------------------------------------

namespace UrlShortener

/- A printable character other than the space. -/
def Text.IsShown (c : Char) : Prop :=
  0x20 < c.toNat ∧ c.toNat < 0x7F

instance : DecidablePred Text.IsShown :=
  fun c => inferInstanceAs
    (Decidable (0x20 < c.toNat ∧ c.toNat < 0x7F))

namespace Text.IsShown

variable {c : Char}

theorem printable (hShown : IsShown c) : IsPrintable c :=
  ⟨Nat.le_of_lt hShown.1, hShown.2⟩

theorem not_stripped
    (hShown : IsShown c) : Url.isStripped c = false :=
  decide_eq_false (Nat.not_le.mpr hShown.1)

theorem not_blank
    (hShown : IsShown c) : isBlank c = false := by
  rcases hShown with ⟨hLow, hHigh⟩
  simp only [isBlank, Bool.or_eq_false_iff,
    Bool.and_eq_false_iff, decide_eq_false_iff_not,
    beq_eq_false_iff_ne]
  omega

end Text.IsShown

theorem IsHostText.shown
    {cs : List Char}
    (hText : IsHostText cs) : ∀ c ∈ cs, Text.IsShown c := by
  intro c hMem
  have hVisible := (Url.host_inside hText c hMem).1.1
  rw [Url.isStripped, decide_eq_false_iff_not, Nat.not_le]
    at hVisible
  exact ⟨hVisible, (hText.printable c hMem).2⟩

namespace Url

variable {host : List Char} {port : Nat}

/- A URL of nothing but a host. -/
def onHost (scheme host : List Char) : Url :=
  { scheme, username := [], password := none
    host := some (.name host), port := none
    path := ['/'], query := none, fragment := none }

theorem onHost_isWritten
    (hReads : Host.ReadsBack (.name host))
    (scheme : List Char) :
    (onHost scheme host).IsWritten (.special port) where
  username := List.forall_mem_nil _
  password := nofun
  host := ⟨.name host, host, rfl, hReads⟩
  port := nofun
  path :=
    ⟨[[]], by simp, rfl,
      List.forall_mem_singleton.mpr (isPart_nil _)⟩
  query := nofun
  fragment := nofun

/- A host that stands alone is read. -/
theorem readSlashed_host
    (hReads : Host.ReadsBack (.name host))
    (scheme : List Char) :
    readSlashed (.special port) scheme host =
      .ok (onHost scheme host) := by
  have hWritten :
      (onHost scheme host).IsWritten (.special port) :=
    onHost_isWritten hReads scheme
  have hInside :=
    host_inside (Host.isHostText_of_ofDomain hReads)
  have hRegion :
      (onHost scheme host).region (.name host) = host :=
    List.append_nil host
  have hEnds :
      ∀ c ∈ host,
        (!(Scheme.special port).endsAuthority c) = true := by
    intro c hMem
    rw [endsAuthority_special.mpr (hInside c hMem).1.2]
    rfl
  have hAuthority := readAuthority_region hWritten hReads true
  rw [hRegion] at hAuthority
  unfold readSlashed
  rw [List.takeWhile_eq_self_iff.mpr hEnds,
    List.dropWhile_eq_nil_iff.mpr hEnds]
  dsimp only
  rw [List.isEmpty_nil]
  change (readAuthority (.special port)
    (onHost scheme host).scheme host true).bind _ = _
  rw [hAuthority]
  rfl

/-
  A URL that is nothing but a scheme, some slashes and a
  host.
-/
def spelling (name marks host : List Char) : List Char :=
  name ++ ':' :: (marks ++ host)

/- How the URLs of a web host may be spelled. -/
structure IsSpelling (name marks host : List Char) : Prop where
  web : name.map Char.toLower ∈ webSchemes
  are_slashes : ∀ c ∈ marks, c ∈ ['/', '\\']
  reads : Host.ReadsBack (.name host)

namespace IsSpelling

variable {name marks : List Char}

theorem host_inside
    (hSpelling : IsSpelling name marks host) :
    ∀ c ∈ host, IsInside c ∧ c ≠ '@' :=
  Url.host_inside (Host.isHostText_of_ofDomain hSpelling.reads)

/- All its characters can be seen. -/
theorem shown
    (hSpelling : IsSpelling name marks host) :
    ∀ c ∈ spelling name marks host, Text.IsShown c := by
  unfold spelling
  rw [List.forall_mem_append, List.forall_mem_cons,
    List.forall_mem_append]
  refine ⟨fun c hMem => ?_, by decide, fun c hMem => ?_,
    (Host.isHostText_of_ofDomain hSpelling.reads).shown⟩
  · have hLetter := isAlpha_of_web hSpelling.web c hMem
    have hAscii := Utf8.ascii_of_isAlpha hLetter
    have hAll : c.isAlpha = true → Text.IsShown c :=
      Utf8.forall_ascii (by decide) hAscii
    exact hAll hLetter
  · rcases List.mem_pair.mp (hSpelling.are_slashes c hMem) with
      rfl | rfl
    · decide
    · decide

theorem splitScheme?
    (hSpelling : IsSpelling name marks host) :
    Url.splitScheme? (spelling name marks host) =
      some (name.map Char.toLower, marks ++ host) :=
  splitScheme?_of_web hSpelling.web (marks ++ host)

/- The host is found behind any number of slashes. -/
theorem parse
    (hSpelling : IsSpelling name marks host) :
    Url.parse (spelling name marks host) =
      .ok (onHost (name.map Char.toLower) host) := by
  rcases kind_of_web hSpelling.web with ⟨port, hKind⟩
  have hCleaned :
      cleaned (spelling name marks host) =
        spelling name marks host :=
    cleaned_eq_self fun c hMem =>
      (hSpelling.shown c hMem).not_stripped
  unfold Url.parse
  rw [hCleaned, hSpelling.splitScheme?]
  dsimp only
  rw [hKind]
  dsimp only
  rw [dropSlashes hSpelling.are_slashes fun c hHead =>
    (hSpelling.host_inside c (List.mem_of_mem_head? hHead)).1]
  exact readSlashed_host hSpelling.reads _

/- But only two of them make it name its authority. -/
theorem namesAuthority_iff
    (hSpelling : IsSpelling name marks host) :
    NamesAuthority (spelling name marks host) ↔
      2 ≤ marks.length := by
  rcases kind_of_web hSpelling.web with ⟨port, hKind⟩
  have hTab :
      (spelling name marks host).filter (· != '\t') =
        spelling name marks host := by
    rw [List.filter_eq_self]
    refine Text.bne_of_not_mem fun hMem => ?_
    exact absurd (hSpelling.shown '\t' hMem) (by decide)
  have hSlashes :
      slashes (.special port) (marks ++ host) =
        marks.length := by
    have hDrop :
        (marks ++ host).dropWhile
            (Scheme.isSlash (.special port)) = host :=
      dropSlashes hSpelling.are_slashes fun c hHead =>
        (hSpelling.host_inside c
          (List.mem_of_mem_head? hHead)).1
    have hWhole := congrArg List.length
      (List.takeWhile_append_dropWhile
        (p := Scheme.isSlash (.special port))
        (l := marks ++ host))
    rw [hDrop, List.length_append, List.length_append] at hWhole
    exact Nat.add_right_cancel hWhole
  rw [Url.namesAuthority_iff, hTab, hSpelling.splitScheme?]
  constructor
  · rintro ⟨_, ⟨⟩, _, hTwo⟩
    rwa [hKind, hSlashes] at hTwo
  · intro hTwo
    refine ⟨_, rfl, hSpelling.web, ?_⟩
    rwa [hKind, hSlashes]

end IsSpelling

end Url

end UrlShortener
