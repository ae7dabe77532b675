import UrlShortener.Proofs.Http.Redirects
import UrlShortener.Proofs.Text.Trimming
import UrlShortener.Proofs.Url.Addresses

/-
  Where redirects lead whoever follows them. A location that
  names its authority leads to the destination that was
  accepted. But a destination may be accepted that does not
  name one, and is sent as it was given: where a URL with
  its scheme is open, it leads to a place on that URL's own
  authority.

  Main declarations:
    * `Destination.cleaned_of_validate`
    * `Location.follow_plain`
    * `Location.follow_text`
    * `Url.IsSpelling.missed`
    * `Location.follow_ofLink`
-/

------------------------------------------------------------
-- Accepted Destinations
------------------------------------------------------------

namespace UrlShortener

namespace Destination

variable {s : String} {u : Url}

theorem isWeb_iff :
    isWeb u = true ↔ u.scheme ∈ Url.webSchemes := by
  rw [isWeb, Bool.or_eq_true, beq_iff_eq, beq_iff_eq]
  exact List.mem_pair.symm

/- Nothing but tabs is dropped from a plain one. -/
theorem cleaned_of_validate
    (hValid : validate s = .ok u)
    (hPlain : Location.IsPlain s) :
    Url.cleaned s.toList = s.toList.filter (· != '\t') := by
  rcases validate_eq_ok_iff.mp hValid with ⟨_, hTrim, _⟩
  rcases Text.ends_of_trim hTrim with ⟨hHead, hLast⟩
  have hBlank {c : Char} :
      c = '\t' ∨ Text.IsPrintable c →
        (Text.isBlank c = false → Url.isStripped c = false) ∧
          Url.isSkipped c = (c == '\t') := by
    intro hChar
    have hAscii : c.toNat < 0x80 := by
      rcases hChar with rfl | hPrintable
      · decide
      · exact Nat.lt_of_lt_of_le hPrintable.2 (by decide)
    revert hChar
    exact Utf8.forall_ascii (by decide) hAscii
  rw [Url.cleaned_eq_filter]
  · refine List.filter_congr fun c hMem => ?_
    rw [(hBlank (hPlain c hMem)).2]
    rfl
  · intro c hFirst
    exact (hBlank (hPlain c (List.mem_of_mem_head? hFirst))).1
      (hHead c hFirst)
  · intro c hEnd
    exact (hBlank (hPlain c (List.mem_of_getLast? hEnd))).1
      (hLast c hEnd)

end Destination

end UrlShortener

------------------------------------------------------------
-- Locations
------------------------------------------------------------

namespace UrlShortener

open Url (NamesAuthority resolve webSchemes)

namespace Location

variable {s : String} {u : Url}

/- A plain destination leads as far as it names its place. -/
theorem follow_plain
    (hValid : Destination.validate s = .ok u)
    (hPlain : IsPlain s)
    (base : Url) :
    (NamesAuthority s.toList ∨ base.scheme ≠ u.scheme →
      resolve base s.toList = .ok u) ∧
    (¬ NamesAuthority s.toList → base.scheme = u.scheme →
      ∃ r, resolve base s.toList = .ok r ∧
        r.SameAuthority base) := by
  have hCleaned := Destination.cleaned_of_validate hValid hPlain
  rcases Destination.validate_eq_ok_iff.mp hValid with
    ⟨_, _, hUrl, hIsWeb, _⟩
  have hWeb := Destination.isWeb_iff.mp hIsWeb
  have hParse : Url.parse s.toList = .ok u := hUrl
  constructor
  · rintro (hNames | hScheme)
    · rw [Url.resolve_of_namesAuthority hCleaned hNames, hParse]
    · exact Url.resolve_of_scheme hParse hScheme
  · intro hUnnamed hScheme
    exact Url.resolve_of_unnamed hCleaned hParse hWeb hScheme
      hUnnamed

/- The text of a URL is read alike wherever it is followed. -/
theorem follow_text
    (hUrl : Url.ofText s = .ok u)
    (hWeb : u.scheme ∈ webSchemes) :
    ∃ h, u.host = some h ∧ NamesAuthority u.chars ∧
      ((∀ name, h = .name name → Domain.IsOrdinary name) →
        h.ReadsBack) ∧
      ∀ base,
        resolve base u.chars = Url.ofText u.text ∧
        (resolve base u.chars = .ok u ↔ h.ReadsBack) := by
  rcases Url.isWebUrl_of_parse hUrl hWeb with ⟨h, port, hWebUrl⟩
  rcases hWebUrl.cleaned_chars with ⟨hCleaned, hTab⟩
  have hOrdinary :
      (∀ name, h = .name name → Domain.IsOrdinary name) →
        h.ReadsBack := by
    rcases hWebUrl.written.host with ⟨h', given, hHost, hRead⟩
    rw [hWebUrl.named] at hHost
    cases hHost
    exact Host.readsBack_of_ofDomain hRead
  refine ⟨h, hWebUrl.named, hWebUrl.namesAuthority,
    hOrdinary, ?_⟩
  intro base
  rw [Url.resolve_of_namesAuthority (hCleaned.trans hTab.symm)
    hWebUrl.namesAuthority, Url.ofText, Url.text,
    String.toList_ofList]
  exact ⟨rfl, hWebUrl.parse_chars_iff⟩

end Location

end UrlShortener

------------------------------------------------------------
-- Destinations That Are Missed
------------------------------------------------------------

namespace UrlShortener

namespace Url

namespace IsSpelling

variable {name marks host : List Char} {s : String}

/- Every spelling of the URL of a web host is accepted. -/
theorem validate
    (hSpelling : IsSpelling name marks host)
    (hText : s.toList = spelling name marks host) :
    Location.IsPlain s ∧
      Destination.validate s =
        .ok (onHost (name.map Char.toLower) host) := by
  have hShown := hText ▸ hSpelling.shown
  refine ⟨fun c hMem => .inr (hShown c hMem).printable, ?_⟩
  rw [Destination.validate_eq_ok_iff]
  refine ⟨?_, ?_, ?_, ?_, ?_⟩
  · rw [Text.isBlankText, Bool.eq_false_iff, ne_eq,
      List.all_eq_true]
    intro hAll
    have hColon := hAll ':' (by simp [hText, spelling])
    exact absurd hColon (by decide)
  · exact Text.trim_eq_self fun c hMem =>
      (hShown c hMem).not_blank
  · rw [ofText, hText]
    exact hSpelling.parse
  · exact Destination.isWeb_iff.mpr hSpelling.web
  · have hSome :=
      (Host.isHostText_of_ofDomain hSpelling.reads).not_empty
    simpa [Destination.hasHost, onHost] using hSome

/-
  One with fewer than two slashes is sent as it is, and
  misses its host wherever its scheme is open already.
-/
theorem missed
    (hSpelling : IsSpelling name marks host)
    (hText : s.toList = spelling name marks host)
    (hFew : marks.length < 2) :
    Location.ofLink s = .ok s ∧
      ¬ NamesAuthority s.toList ∧
      ∀ base : Url, base.scheme = name.map Char.toLower →
        ∃ r, resolve base s.toList = .ok r ∧
          r.SameAuthority base := by
  rcases hSpelling.validate hText with ⟨hPlain, hValid⟩
  have hUnnamed : ¬ NamesAuthority s.toList := by
    rw [hText, hSpelling.namesAuthority_iff]
    exact Nat.not_le.mpr hFew
  exact ⟨Location.ofLink_of_plain hPlain, hUnnamed,
    fun base hScheme =>
      (Location.follow_plain hValid hPlain base).2 hUnnamed
        hScheme⟩

end IsSpelling

end Url

end UrlShortener

------------------------------------------------------------
-- Where Redirects Lead
------------------------------------------------------------

namespace UrlShortener

open Url (NamesAuthority resolve)

namespace Location

variable {s : String} {u : Url}

/-
  Every accepted destination has a location. Where it names
  its authority, or is followed from another scheme, it
  leads to the destination, unless it was rewritten and its
  host is not read back, which only happens to names with
  encoded labels or capitals. A plain destination that does
  not name its authority leads to a place on the one from
  which it is followed.
-/
theorem follow_ofLink
    (hValid : Destination.validate s = .ok u) :
    ∃ v h, ofLink s = .ok v ∧ u.host = some h ∧
      v = (if IsPlain s then s else u.text) ∧
      (NamesAuthority v.toList ↔
        (IsPlain s → NamesAuthority s.toList)) ∧
      ((∀ name, h = .name name → Domain.IsOrdinary name) →
        h.ReadsBack) ∧
      ∀ base : Url,
        (NamesAuthority v.toList →
          resolve base v.toList = Url.ofText v) ∧
        (NamesAuthority v.toList ∨ base.scheme ≠ u.scheme →
          (resolve base v.toList = .ok u ↔
            IsPlain s ∨ h.ReadsBack)) ∧
        (¬ NamesAuthority v.toList → base.scheme = u.scheme →
          ∃ r, resolve base v.toList = .ok r ∧
            r.SameAuthority base) := by
  rcases Destination.validate_eq_ok_iff.mp hValid with
    ⟨_, _, hUrl, hIsWeb, _⟩
  have hWeb := Destination.isWeb_iff.mp hIsWeb
  rcases follow_text hUrl hWeb with
    ⟨h, hHost, hNames, hOrdinary, hText⟩
  by_cases hPlain : IsPlain s
  · refine ⟨s, h, ofLink_of_plain hPlain, hHost,
      (if_pos hPlain).symm, (imp_iff_right hPlain).symm,
      hOrdinary, ?_⟩
    intro base
    rcases follow_plain hValid hPlain base with
      ⟨hLeads, hStays⟩
    refine ⟨fun hNamed => ?_, fun hCase => ?_, hStays⟩
    · rw [hLeads (.inl hNamed), hUrl]
    · exact iff_of_true (hLeads hCase) (.inl hPlain)
  · have hChars : u.text.toList = u.chars :=
      String.toList_ofList
    refine ⟨u.text, h, ofLink_of_url hPlain hUrl, hHost,
      (if_neg hPlain).symm, ?_, hOrdinary, ?_⟩
    · rw [hChars]
      exact iff_of_true hNames fun hAll => absurd hAll hPlain
    · intro base
      rw [hChars, or_iff_right hPlain]
      exact ⟨fun _ => (hText base).1, fun _ => (hText base).2,
        fun hUnnamed => absurd hNames hUnnamed⟩

/- A short link, open while its redirect is followed. -/
def sampleShortLink : Url :=
  { Url.onHost "http".toList "sho.rt".toList with
      path := "/c1".toList }

theorem rewritten_destination_is_reached :
    Destination.validate "http:[::]/é" = .ok Site.sampleUrl ∧
      ofLink "http:[::]/é" = .ok "http://[::]/%C3%A9" ∧
      resolve sampleShortLink "http://[::]/%C3%A9".toList =
        .ok Site.sampleUrl := by
  have hValid :
      Destination.validate "http:[::]/é" = .ok Site.sampleUrl := by
    decide +kernel
  have hPlain : ¬ IsPlain "http:[::]/é" := by decide
  have hText : Site.sampleUrl.text = "http://[::]/%C3%A9" := by
    decide +kernel
  rcases follow_ofLink hValid with
    ⟨v, h, hLink, hHost, hWritten, hNames, hOrdinary, hFollow⟩
  rw [if_neg hPlain, hText] at hWritten
  subst hWritten
  cases hHost
  rcases hFollow sampleShortLink with ⟨_, hLeads, _⟩
  have hReads := hOrdinary nofun
  refine ⟨hValid, hLink, (hLeads (.inl ?_)).mpr (.inr hReads)⟩
  exact hNames.mpr fun hAll => absurd hAll hPlain

/-
  The destination without slashes is accepted, and followed
  from a short link it leads to a place on the shortener.
-/
theorem destination_without_slashes_is_missed :
    let s := "http:example.com"
    let u := Url.onHost "http".toList "example.com".toList
    Destination.validate s = .ok u ∧
      ofLink s = .ok s ∧
      ¬ NamesAuthority s.toList ∧
      sampleShortLink.scheme ∈ Url.webSchemes ∧
      resolve sampleShortLink s.toList ≠ .ok u := by
  intro s u
  have hSpelling :
      Url.IsSpelling "http".toList [] "example.com".toList :=
    ⟨by decide, List.forall_mem_nil _,
      Host.readsBack_of_ordinary (by decide) (by decide)
        (by decide)⟩
  rcases hSpelling.missed (s := s) (by decide) (by decide) with
    ⟨hLink, hUnnamed, hMissed⟩
  rcases hMissed sampleShortLink (by decide) with
    ⟨r, hResolve, hSame⟩
  refine ⟨(hSpelling.validate (by decide)).2, hLink, hUnnamed,
    by decide, ?_⟩
  intro hLeads
  rw [hResolve] at hLeads
  cases hLeads
  exact absurd hSame.host (by decide)

end Location

end UrlShortener
