import UrlShortener.Proofs.App.Conservation
import UrlShortener.Proofs.Http.Redirects
import UrlShortener.Proofs.Text.Trimming

/-
  The ends of destinations. A text with blanks at its ends
  is refused as a destination, since the reader of URLs
  would drop them. But that reader drops control characters
  at the ends as well, and most of these are no blanks: a
  destination may be accepted, and stored, that is read
  without its ends.

  Key definitions include:
    * `Url.stripped`
    * `Url.IsStray`
    * `Destination.ReadAs`

  Main declarations:
    * `Url.parse_stripped`
    * `Destination.validate_eq_ok_iff_readAs`
    * `Destination.ReadAs.surround`
    * `Journal.run_accepted`
    * `Destination.stray_ends_are_dropped`
-/

------------------------------------------------------------
-- What The Reader Drops
------------------------------------------------------------

namespace UrlShortener

namespace Url

/- A text without what the reader drops at its ends. -/
def stripped (cs : List Char) : List Char :=
  Text.trimWhere isStripped cs

/- A control character that is no blank. -/
def IsStray (c : Char) : Prop :=
  c.toNat ≤ 8 ∨ 14 ≤ c.toNat ∧ c.toNat ≤ 31

instance : DecidablePred IsStray :=
  fun c => inferInstanceAs
    (Decidable (c.toNat ≤ 8 ∨ 14 ≤ c.toNat ∧ c.toNat ≤ 31))

theorem cleaned_eq_stripped (cs : List Char) :
    cleaned cs = (stripped cs).filter fun c => !isSkipped c :=
  rfl

/- What is dropped at the ends of a text is never read. -/
theorem parse_stripped (cs : List Char) :
    parse (stripped cs) = parse cs := by
  have hCleaned : cleaned (stripped cs) = cleaned cs := by
    rw [cleaned_eq_stripped, cleaned_eq_stripped, stripped,
      stripped, Text.trimWhere_trimWhere]
  rw [parse, hCleaned]
  rfl

/- Those are the characters that are dropped and no blanks. -/
theorem isStray_iff {c : Char} :
    IsStray c ↔
      isStripped c = true ∧ Text.isBlank c = false := by
  simp only [IsStray, isStripped, Text.isBlank,
    decide_eq_true_eq, Bool.or_eq_false_iff,
    Bool.and_eq_false_iff, decide_eq_false_iff_not,
    beq_eq_false_iff_ne]
  omega

end Url

end UrlShortener

------------------------------------------------------------
-- Destinations
------------------------------------------------------------

namespace UrlShortener

namespace Destination

/-
  A text that does not end in blanks, and what is read of it
  once the ends that are dropped are gone: a URL of the web
  with a host.
-/
structure ReadAs (cs : List Char) (u : Url) : Prop where
  not_empty : cs ≠ []
  not_blank : ∀ c, Text.IsEnd cs c → Text.isBlank c = false
  read : Url.parse (Url.stripped cs) = .ok u
  web : isWeb u = true
  host : hasHost u = true

variable {s : String} {u : Url} {cs before after : List Char}

/- The texts whose ends are looked at no more. -/
theorem ends_kept_iff :
    Text.isBlankText s = false ∧
        Text.trim s.toList = s.toList ↔
      s.toList ≠ [] ∧
        ∀ c, Text.IsEnd s.toList c →
          Text.isBlank c = false := by
  rw [Text.trim_eq_trimWhere, Text.trimWhere_eq_self_iff]
  refine and_congr_left fun hEnds => ?_
  rw [Text.isBlankText, List.all_eq_false]
  constructor
  · rintro ⟨c, hMem, _⟩
    exact List.ne_nil_of_mem hMem
  · intro hSome
    rcases Text.exists_isEnd hSome with ⟨c, hMem, hEnd⟩
    exact ⟨c, hMem, Bool.eq_false_iff.mp (hEnds c hEnd)⟩

theorem validate_eq_ok_iff_readAs :
    validate s = .ok u ↔ ReadAs s.toList u := by
  rw [validate_eq_ok_iff, ← and_assoc, ends_kept_iff, Url.ofText,
    ← Url.parse_stripped]
  constructor
  · rintro ⟨⟨hSome, hEnds⟩, hRead, hWeb, hHost⟩
    exact ⟨hSome, hEnds, hRead, hWeb, hHost⟩
  · rintro ⟨hSome, hEnds, hRead, hWeb, hHost⟩
    exact ⟨⟨hSome, hEnds⟩, hRead, hWeb, hHost⟩

/- A text whose ends are kept is refused for something else. -/
theorem not_refused_for_ends
    {fault : DestinationFault}
    (hBlank : Text.isBlankText s = false)
    (hTrim : Text.trim s.toList = s.toList)
    (hRefused : validate s = .error fault) :
    fault ≠ .empty ∧ fault ≠ .surroundingBlank := by
  rw [validate, if_neg (Bool.eq_false_iff.mp hBlank),
    if_neg (not_not.mpr hTrim)] at hRefused
  split at hRefused
  · rename_i reason _
    cases hRefused
    cases reason <;> exact ⟨nofun, nofun⟩
  · split at hRefused
    · cases hRefused
      exact ⟨nofun, nofun⟩
    · split at hRefused
      · cases hRefused
        exact ⟨nofun, nofun⟩
      · cases hRefused

/- A text is refused for its ends just if one is a blank. -/
theorem refused_for_ends_iff :
    validate s = .error .empty ∨
        validate s = .error .surroundingBlank ↔
      s = "" ∨
        ∃ c, Text.IsEnd s.toList c ∧
          Text.isBlank c = true := by
  have hRefused :
      validate s = .error .empty ∨
          validate s = .error .surroundingBlank ↔
        ¬ (Text.isBlankText s = false ∧
          Text.trim s.toList = s.toList) := by
    constructor
    · rintro (hEmpty | hEnds) ⟨hBlank, hTrim⟩
      · exact (not_refused_for_ends hBlank hTrim hEmpty).1 rfl
      · exact (not_refused_for_ends hBlank hTrim hEnds).2 rfl
    · intro hLost
      by_cases hBlank : Text.isBlankText s = true
      · exact Or.inl (if_pos hBlank)
      · have hTrim : Text.trim s.toList ≠ s.toList := fun hTrim =>
          hLost ⟨Bool.eq_false_iff.mpr hBlank, hTrim⟩
        exact Or.inr ((if_neg hBlank).trans (if_pos hTrim))
  rw [hRefused, ends_kept_iff, not_and_or, not_not,
    String.toList_eq_nil_iff]
  refine or_congr_right ?_
  simp only [not_forall, Bool.not_eq_false, exists_prop]

namespace ReadAs

/- Of its ends, just the stray ones are dropped. -/
theorem dropped_iff
    (hRead : ReadAs cs u)
    {c : Char}
    (hEnd : Text.IsEnd cs c) :
    Url.isStripped c = true ↔ Url.IsStray c := by
  rw [Url.isStray_iff]
  exact (and_iff_left (hRead.not_blank c hEnd)).symm

/- It is read as it is just if none of its ends is stray. -/
theorem whole_iff
    (hRead : ReadAs cs u) :
    Url.stripped cs = cs ↔
      ∀ c, Text.IsEnd cs c → ¬ Url.IsStray c := by
  rw [Url.stripped, Text.trimWhere_eq_self_iff]
  refine forall₂_congr fun c hEnd => ?_
  rw [← hRead.dropped_iff hEnd, Bool.not_eq_true]

/-
  With more around it that is dropped, and stray characters
  outermost, it is still accepted, and read alike.
-/
theorem surround
    (hRead : ReadAs cs u)
    (hDropped : ∀ c ∈ before ++ after, Url.isStripped c = true)
    (hFirst : ∀ c ∈ before.head?, Url.IsStray c)
    (hLast : ∀ c ∈ after.getLast?, Url.IsStray c) :
    ReadAs (before ++ (cs ++ after)) u where
  not_empty := by
    simp only [ne_eq, List.append_eq_nil_iff, hRead.not_empty,
      false_and, and_false, not_false_eq_true]
  not_blank := by
    intro c hEnd
    rcases Text.isEnd_append hRead.not_empty hEnd with
      hBefore | hAfter | hOwn
    · exact (Url.isStray_iff.mp (hFirst c hBefore)).2
    · exact (Url.isStray_iff.mp (hLast c hAfter)).2
    · exact hRead.not_blank c hOwn
  read := by
    rcases List.forall_mem_append.mp hDropped with
      ⟨hBefore, hAfter⟩
    rw [Url.stripped, Text.trimWhere_append hBefore hAfter]
    exact hRead.read
  web := hRead.web
  host := hRead.host

end ReadAs

end Destination

end UrlShortener

------------------------------------------------------------
-- What Is Stored
------------------------------------------------------------

namespace UrlShortener

namespace Journal

variable {w : Surroundings} {site : Site}
variable {rules : RecordingRules} {j : Journal}

/- A step of the service stores accepted destinations alone. -/
theorem step_accepted
    (hAccepted : j.app.links.store.Accepted)
    (next : AppStep) :
    (j.step w site rules next).app.links.store.Accepted := by
  cases next with
  | create request =>
      exact Dialogue.run_accepted
        ((Shortener.create_elsewhere site.policy request).mono
          fun _ => Ask.Elsewhere.accepted) hAccepted
  | resolve code =>
      simp only [step, resolve, noteResolution_app]
      exact Dialogue.run_accepted
        (Shortener.resolve_accepted site.policy code) hAccepted
  | stats code =>
      exact Dialogue.run_accepted
        ((Shortener.stats_elsewhere site.policy code).mono
          fun _ => Ask.Elsewhere.accepted) hAccepted
  | http r =>
      rw [step, answer_app]
      exact Dialogue.run_accepted site.answer_accepted hAccepted
  | httpTrimmed r =>
      rw [step, answer_app]
      exact Dialogue.run_accepted site.answer_accepted hAccepted
  | settle rest => exact hAccepted
  | close => exact hAccepted

/- So does every run. -/
theorem run_accepted
    (hAccepted : j.app.links.store.Accepted)
    (steps : List AppStep) :
    (j.run w site rules steps).app.links.store.Accepted := by
  induction steps generalizing j with
  | nil => exact hAccepted
  | cons next steps ih => exact ih (step_accepted hAccepted next)

end Journal

namespace Destination

/-
  A text is refused for its ends just if it is empty or ends
  in a blank. It is accepted just if it does not, and what
  is left of it without the ends that the reader drops is a
  URL of the web with a host. So an accepted text is read as
  it is just if it does not end in a stray control character
  and is accepted, and read alike, inside such characters as
  well. No other destination is ever stored.
-/
theorem stray_ends_are_dropped (s : String) :
    (validate s = .error .empty ∨
        validate s = .error .surroundingBlank ↔
      s = "" ∨
        ∃ c, Text.IsEnd s.toList c ∧ Text.isBlank c = true) ∧
    (∀ u, validate s = .ok u ↔ ReadAs s.toList u) ∧
    (∀ u, validate s = .ok u →
      (∀ c, Text.IsEnd s.toList c →
        (Url.isStripped c = true ↔ Url.IsStray c)) ∧
      (Url.stripped s.toList = s.toList ↔
        ∀ c, Text.IsEnd s.toList c → ¬ Url.IsStray c) ∧
      ∀ before after,
        (∀ c ∈ before ++ after, Url.isStripped c = true) →
        (∀ c ∈ before.head?, Url.IsStray c) →
        (∀ c ∈ after.getLast?, Url.IsStray c) →
          validate
              (String.ofList (before ++ (s.toList ++ after))) =
            .ok u) ∧
    ∀ w site rules minter capacity scripts steps code link,
      let j :=
        (Journal.start (App.scripted minter capacity
          scripts)).run w site rules steps
      j.app.links.store.get? code = some link →
      link.longUrl = s →
        ∃ u, ReadAs s.toList u := by
  refine ⟨refused_for_ends_iff,
    fun u => validate_eq_ok_iff_readAs, ?_, ?_⟩
  · intro u hValid
    have hRead : ReadAs s.toList u :=
      validate_eq_ok_iff_readAs.mp hValid
    refine ⟨fun c => hRead.dropped_iff, hRead.whole_iff, ?_⟩
    intro before after hDropped hFirst hLast
    rw [validate_eq_ok_iff_readAs, String.toList_ofList]
    exact hRead.surround hDropped hFirst hLast
  · intro w site rules minter capacity scripts steps code link j
      hFound hUrl
    have hEmpty :
        (Journal.start (App.scripted minter capacity
          scripts)).app.links.store.Accepted := nofun
    rcases Journal.run_accepted hEmpty steps code link hFound
      with ⟨u, hValid⟩
    rw [hUrl] at hValid
    exact ⟨u, validate_eq_ok_iff_readAs.mp hValid⟩

/-
  A destination behind a control character is accepted and
  stored, and is read without it.
-/
theorem stray_end_is_stored :
    let s := "\x01http://[::]"
    let u : Url :=
      { Url.bare "http".toList with
          host := some (.ipv6 (List.replicate 8 0))
          path := "/".toList }
    let site : Site := ⟨.usual, 500⟩
    let w : Surroundings := ⟨fun n => ⟨0, n, 0⟩, fun _ _ => 0⟩
    let created :=
      (Journal.start (App.scripted (.listed [.given "abc"]) 1
        ⟨[], [], [], [], [], []⟩)).run w site .usual
        [.create ⟨s, none, none, none⟩]
    validate s = .ok u ∧
      Text.IsEnd s.toList '\x01' ∧
      Url.isStripped '\x01' = true ∧
      Url.stripped s.toList = "http://[::]".toList ∧
      (created.app.links.store.get? "abc").map Link.longUrl =
        some s := by
  decide +kernel

end Destination

end UrlShortener
