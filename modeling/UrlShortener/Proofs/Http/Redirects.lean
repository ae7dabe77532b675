import UrlShortener.Proofs.Http.LookUps
import UrlShortener.Proofs.Url.Printable

/-
  Every link that can be created can be followed. A stored
  destination that a header can hold is where its redirect
  leads; otherwise it leads to the text of its URL, which is
  always printable. No location holds a control character
  other than a tab.

  Key definitions include:
    * `Location.IsPlain`
    * `App.Holds`
    * `LinkStore.Accepted`
    * `Site.serveAll`

  Main declarations:
    * `Location.ofLink_of_url`
    * `Site.answer_of_held`
    * `Site.serveAll_accepted`
    * `Site.created_links_can_be_followed`
-/

------------------------------------------------------------
-- Locations
------------------------------------------------------------

namespace UrlShortener

namespace Location

/- A text of printable characters and tabs. -/
def IsPlain (s : String) : Prop :=
  ∀ c ∈ s.toList, c = '\t' ∨ Text.IsPrintable c

instance : DecidablePred IsPlain :=
  fun s => List.decidableBAll
    (fun c => c = '\t' ∨ Text.IsPrintable c) s.toList

/- A header can hold just the plain texts. -/
theorem header?_eq (s : String) :
    header? s = if IsPlain s then some s else none := by
  have hChar :
      ∀ c : Char,
        isHeaderChar c = true ↔
          c = '\t' ∨ Text.IsPrintable c := by
    intro c
    simp only [isHeaderChar, Bool.or_eq_true, beq_iff_eq,
      Bool.and_eq_true, decide_eq_true_eq]
    exact Iff.rfl
  have hAll :
      s.toList.all isHeaderChar = true ↔ IsPlain s := by
    rw [List.all_eq_true]
    exact forall₂_congr fun c _ => hChar c
  exact if_congr hAll rfl rfl

/- The text of a URL can stand in a header. -/
theorem isPlain_text
    {s : String}
    {u : Url}
    (hUrl : Url.ofText s = .ok u) : IsPlain u.text := by
  intro c hChar
  rw [Url.text, String.toList_ofList] at hChar
  exact Or.inr (Url.ofText_printable hUrl c hChar)

variable {longUrl v : String} {u : Url}

/- A plain destination is its own location. -/
theorem ofLink_of_plain
    (hPlain : IsPlain longUrl) :
    ofLink longUrl = .ok longUrl := by
  rw [ofLink, header?_eq, if_pos hPlain]

/- The location of any other URL is its text. -/
theorem ofLink_of_url
    (hPlain : ¬ IsPlain longUrl)
    (hUrl : Url.ofText longUrl = .ok u) :
    ofLink longUrl = .ok u.text := by
  rw [ofLink, header?_eq, if_neg hPlain, hUrl]
  dsimp only [Except.toOption]
  rw [header?_eq, if_pos (isPlain_text hUrl)]

/- What is neither has no location. -/
theorem ofLink_of_fault
    {fault : UrlFault}
    (hPlain : ¬ IsPlain longUrl)
    (hUrl : Url.ofText longUrl = .error fault) :
    ofLink longUrl = .error (unusable longUrl) := by
  rw [ofLink, header?_eq, if_neg hPlain, hUrl]
  rfl

/- These are all the locations there are. -/
theorem ofLink_cases (longUrl : String) :
    (IsPlain longUrl ∧ ofLink longUrl = .ok longUrl) ∨
    (∃ u, ¬ IsPlain longUrl ∧ Url.ofText longUrl = .ok u ∧
      ofLink longUrl = .ok u.text) ∨
    ∃ fault, ¬ IsPlain longUrl ∧
      Url.ofText longUrl = .error fault ∧
      ofLink longUrl = .error (unusable longUrl) := by
  by_cases hPlain : IsPlain longUrl
  · exact Or.inl ⟨hPlain, ofLink_of_plain hPlain⟩
  · cases hUrl : Url.ofText longUrl with
    | ok u =>
        exact Or.inr (Or.inl
          ⟨u, hPlain, rfl, ofLink_of_url hPlain hUrl⟩)
    | error fault =>
        exact Or.inr (Or.inr
          ⟨fault, hPlain, rfl, ofLink_of_fault hPlain hUrl⟩)

/- A location is plain, wherever it came from. -/
theorem isPlain_of_ofLink
    (hLocation : ofLink longUrl = .ok v) : IsPlain v := by
  rcases ofLink_cases longUrl with
    ⟨hPlain, hSelf⟩ | ⟨u, _, hUrl, hText⟩ | ⟨_, _, _, hNone⟩
  · rw [hSelf] at hLocation
    cases hLocation
    exact hPlain
  · rw [hText] at hLocation
    cases hLocation
    exact isPlain_text hUrl
  · rw [hNone] at hLocation
    cases hLocation

end Location

namespace Destination

variable {longUrl : String} {u : Url}

/- Just the trimmed texts of URLs on web hosts are accepted. -/
theorem validate_eq_ok_iff :
    validate longUrl = .ok u ↔
      Text.isBlankText longUrl = false ∧
      Text.trim longUrl.toList = longUrl.toList ∧
      Url.ofText longUrl = .ok u ∧
      isWeb u = true ∧
      hasHost u = true := by
  unfold validate
  constructor
  · intro hValid
    split at hValid
    · cases hValid
    · rename_i hBlank
      split at hValid
      · cases hValid
      · rename_i hTrim
        split at hValid
        · cases hValid
        · rename_i hUrl
          split at hValid
          · cases hValid
          · rename_i hWeb
            split at hValid
            · cases hValid
            · rename_i hHost
              cases hValid
              rw [Bool.not_eq_true, Bool.not_eq_false'] at hWeb hHost
              exact ⟨Bool.eq_false_iff.mpr hBlank,
                not_not.mp hTrim, hUrl, hWeb, hHost⟩
  · rintro ⟨hBlank, hTrim, hUrl, hWeb, hHost⟩
    rw [hBlank, if_neg Bool.false_ne_true,
      if_neg (not_not.mpr hTrim), hUrl]
    dsimp only
    rw [hWeb, hHost]
    rfl

/- A destination that is accepted is a URL. -/
theorem ofText_of_validate
    (hValid : validate longUrl = .ok u) :
    Url.ofText longUrl = .ok u :=
  (validate_eq_ok_iff.mp hValid).2.2.1

end Destination

end UrlShortener

------------------------------------------------------------
-- Answers About Links That Are Held
------------------------------------------------------------

namespace UrlShortener

/-
  A link is held under a code, by an open store that will
  answer the next look-up in time and without a fault.
-/
structure App.Holds
    (s : App)
    (limit : Nat)
    (code : String)
    (link : Link) : Prop where
  stored : s.links.store.get? code = some link
  still_open : s.links.store.closed = false
  answers : s.beginFind.1.within limit = some none

/- A link that is held is what a look-up finds. -/
theorem App.Holds.found
    {s : App}
    {limit : Nat}
    {code : String}
    {link : Link}
    (hHolds : s.Holds limit code link) :
    s.beginFind.2.links.endFind
        (s.beginFind.1.within limit) code =
      some (.ok link) := by
  rw [hHolds.answers]
  have hFound : s.links.store.find code = .ok link := by
    rw [LinkStore.find_of_open hHolds.still_open]
    exact LinkStore.findOpen_eq_ok_iff.mpr hHolds.stored
  exact congrArg some hFound

namespace Shortener

/- A resolution of a live link answers it. -/
theorem run_resolve_of_live
    {w : Surroundings}
    {policy : Policy}
    {s : App}
    {code : String}
    {link : Link}
    (hBlank : Text.isBlankText code = false)
    (hHolds : s.Holds policy.storeTimeout code link)
    (hLive : link.expiredAt (w.clock s.readings) = false) :
    ((resolve policy code).run w s).1 = .ok link := by
  have hResolved := run_resolved (w := w) link.shortCode
    (Except.ok (ε := Failure) link)
    (s.beginFind.2.readClock w).2
  have hRun :
      (afterFind code link).run w s.beginFind.2 =
        (if link.expiredAt (w.clock s.readings) then
          Dialogue.done (.error (expiredCode code))
        else
          .note .resolves
            (schedule link.shortCode (.ok link))).run w
          (s.beginFind.2.readClock w).2 := rfl
  rw [run_resolve_of_found (Bool.eq_false_iff.mp hBlank)
    hHolds.found, hRun, if_neg (Bool.eq_false_iff.mp hLive)]
  exact hResolved.1

end Shortener

namespace Site

variable (site : Site) {w : Surroundings} {s : App}
variable {r : Request} {path : List Char}

/- Without its body, an answer still leads to where it led. -/
theorem run_reading
    (hReads : r.Reads)
    (d : Dialogue Response)
    (s : App) :
    ((reading r d).run w s).1.status =
        (d.run w s).1.status ∧
      ((reading r d).run w s).1.location =
        (d.run w s).1.location := by
  unfold reading
  by_cases hGet : r.method = "GET"
  · rw [if_pos hGet]
    exact ⟨rfl, rfl⟩
  · rw [if_neg hGet, if_pos (hReads.resolve_left hGet),
      Dialogue.run_map]
    exact ⟨rfl, rfl⟩

/-
  A request for a live link that is held is redirected if
  the link has a location, and fails otherwise.
-/
theorem answer_of_held
    {code : String}
    {link : Link}
    (hReads : r.Reads)
    (hNames : Target.Names path code)
    (hHolds : s.Holds site.policy.storeTimeout code link)
    (hLive : link.expiredAt (w.clock s.readings) = false) :
    let a := ((site.answer r path).run w s).1
    match Location.ofLink link.longUrl with
    | .ok v => a.status = 302 ∧ a.location = some v
    | .error failure =>
        a.status = failure.status ∧ a.location = none := by
  intro a
  have hName : Code.IsName code := by
    rcases hNames with ⟨_, _, _, _, _, _, hName⟩
    exact hName
  have hAnswer :
      a.status = (redirectTo link).status ∧
        a.location = (redirectTo link).location := by
    have hRun := run_reading (w := w) hReads
      ((Shortener.resolve site.policy code).map resolved) s
    rw [Dialogue.run_map,
      Shortener.run_resolve_of_live hName.not_blank hHolds
        hLive, ← site.answer_of_names hNames] at hRun
    exact hRun
  rw [hAnswer.1, hAnswer.2, redirectTo]
  cases Location.ofLink link.longUrl with
  | ok v => exact ⟨rfl, rfl⟩
  | error failure => exact ⟨rfl, rfl⟩

/- Wherever an answer leads, its location is plain. -/
theorem isPlain_of_answer
    {v : String}
    (hLeads :
      ((site.answer r path).run w s).1.location = some v) :
    Location.IsPlain v := by
  cases hFollows : r.follows? path with
  | none =>
      have hStays := (site.answer_stays hFollows).run (w := w) s
      rw [hStays.location] at hLeads
      cases hLeads
  | some code =>
      rcases Request.follows?_eq_some_iff.mp hFollows with
        ⟨hReads, hNames⟩
      rw [site.answer_of_names hNames,
        (run_reading hReads _ s).2, Dialogue.run_map] at hLeads
      dsimp only at hLeads
      unfold resolved at hLeads
      split at hLeads
      · unfold redirectTo at hLeads
        split at hLeads
        · rename_i hLocation
          cases hLeads
          exact Location.isPlain_of_ofLink hLocation
        · cases hLeads
      · cases hLeads

end Site

end UrlShortener

------------------------------------------------------------
-- Links That Were Created
------------------------------------------------------------

namespace UrlShortener

/- A store whose links all lead to accepted destinations. -/
def LinkStore.Accepted (s : LinkStore) : Prop :=
  ∀ code link, s.get? code = some link →
    ∃ u, Destination.validate link.longUrl = .ok u

/- Saving no link but to an accepted destination. -/
def Ask.Accepted : Ask → Prop
| .save new =>
    ∃ u, Destination.validate new.longUrl = .ok u
| _ => True

theorem LinkStore.Accepted.insert
    {s : LinkStore}
    (hAccepted : s.Accepted)
    {new : NewLink}
    (hNew : ∃ u, Destination.validate new.longUrl = .ok u)
    (now : Timestamp) : (s.insert new now).2.Accepted := by
  intro code link hFound
  rw [get?_insert, Option.or_eq_some_iff] at hFound
  rcases hFound with hOld | ⟨_, hLink⟩
  · exact hAccepted code link hOld
  · split at hLink
    · cases hLink
      exact hNew
    · cases hLink

/- A dialogue that saves such links alone keeps such a store. -/
theorem Dialogue.run_accepted
    {α : Type}
    {w : Surroundings}
    {d : Dialogue α}
    {s : App}
    (hWithin : d.Within Ask.Accepted)
    (hAccepted : s.links.store.Accepted) :
    (d.run w s).2.links.store.Accepted := by
  have hRun :=
    run_induction (w := w)
      (P := fun d s =>
        d.Within Ask.Accepted ∧ s.links.store.Accepted)
      ?_ ⟨hWithin, hAccepted⟩
  · exact hRun.2
  · rintro d s e d' s' ⟨hWithin, hAccepted⟩ hStep
    refine ⟨hWithin.feed (feed?_of_proceed? hStep), ?_⟩
    rcases proceed?_store_cases hStep with
      ⟨hSame, _⟩ | ⟨_, new, _, rfl, _, _, hStore⟩
    · rw [hSame]
      exact hAccepted
    · rw [hStore]
      exact hAccepted.insert hWithin.1 _

theorem Ask.Elsewhere.accepted
    {a : Ask}
    (hElsewhere : a.Elsewhere) : a.Accepted := by
  cases a with
  | save new => exact hElsewhere
  | _ => exact True.intro

/- A resolution saves no link at all. -/
theorem Shortener.resolve_accepted
    (policy : Policy)
    (code : String) :
    (resolve policy code).Within Ask.Accepted := by
  refine (resolve_within policy code).mono ?_
  intro a hLooks
  cases a with
  | save new => exact hLooks.elim
  | _ => exact True.intro

namespace Site

variable (site : Site) {r : Request} {path : List Char}

/- Requests save links to accepted destinations alone. -/
theorem answer_accepted :
    (site.answer r path).Within Ask.Accepted := by
  cases hFollows : r.follows? path with
  | none =>
      exact (site.answer_elsewhere hFollows).mono
        fun _ => Ask.Elsewhere.accepted
  | some code =>
      rcases site.answer_of_follows hFollows with ⟨f, hAnswer⟩
      rw [hAnswer]
      exact (Shortener.resolve_accepted site.policy code).map f

/- Answer requests one after another, trimmed or as they are. -/
def serveAll
    (site : Site)
    (w : Surroundings)
    (requests : List (Bool × Request))
    (s : App) : App :=
  requests.foldl
    (fun s q => ((site.respond q.1 q.2).run w s).2) s

/- However many requests there were, destinations are good. -/
theorem serveAll_accepted
    {w : Surroundings}
    {s : App}
    (hAccepted : s.links.store.Accepted)
    (requests : List (Bool × Request)) :
    (site.serveAll w requests s).links.store.Accepted := by
  induction requests generalizing s with
  | nil => exact hAccepted
  | cons q requests ih =>
      refine ih ?_
      dsimp only
      rw [respond_eq]
      exact Dialogue.run_accepted site.answer_accepted hAccepted

/-
  Every destination that is accepted has a location: itself
  if that is plain, and the text of its URL otherwise. Both
  are the same URL, if the text of the URL is read as it. A
  live link that was created is redirected to its location.
  Whatever else is stored leads to itself, to the text of
  its URL or to a failure of the service, and no location
  has a control character in it other than a tab.
-/
theorem created_links_can_be_followed
    (site : Site)
    (w : Surroundings) :
    (∀ longUrl u, Destination.validate longUrl = .ok u →
      Url.ofText longUrl = .ok u ∧
      ∃ v, Location.ofLink longUrl = .ok v ∧
        v = (if Location.IsPlain longUrl then longUrl
          else u.text) ∧
        (Url.ofText u.text = .ok u →
          Url.ofText v = Url.ofText longUrl)) ∧
    (∀ s trims r code link u,
      r.Reads → Target.Names (seen trims r) code →
      s.Holds site.policy.storeTimeout code link →
      link.expiredAt (w.clock s.readings) = false →
      Destination.validate link.longUrl = .ok u →
        let a := ((site.respond trims r).run w s).1
        a.status = 302 ∧
        a.location =
          some (if Location.IsPlain link.longUrl then
            link.longUrl else u.text)) ∧
    (∀ start requests code link,
      start.links.store = LinkStore.empty →
      (site.serveAll w requests start).links.store.get? code =
          some link →
        ∃ u, Destination.validate link.longUrl = .ok u) ∧
    (∀ s trims r code link,
      r.Reads → Target.Names (seen trims r) code →
      s.Holds site.policy.storeTimeout code link →
      link.expiredAt (w.clock s.readings) = false →
        let a := ((site.respond trims r).run w s).1
        (a.status = 302 ∧ a.location = some link.longUrl) ∨
        (∃ u, Url.ofText link.longUrl = .ok u ∧
          a.status = 302 ∧ a.location = some u.text) ∨
        (a.status = 500 ∧ a.location = none)) ∧
    (∀ s trims r v,
      ((site.respond trims r).run w s).1.location = some v →
        ∀ c ∈ v.toList,
          c = '\t' ∨ 0x20 ≤ c.toNat ∧ c.toNat < 0x7F) := by
  have hLocation
      {longUrl : String}
      {u : Url}
      (hValid : Destination.validate longUrl = .ok u) :
      Location.ofLink longUrl =
        .ok (if Location.IsPlain longUrl then longUrl
          else u.text) := by
    split
    · rename_i hPlain
      exact Location.ofLink_of_plain hPlain
    · rename_i hPlain
      exact Location.ofLink_of_url hPlain
        (Destination.ofText_of_validate hValid)
  refine ⟨?_, ?_, ?_, ?_, ?_⟩
  · intro longUrl u hValid
    have hUrl := Destination.ofText_of_validate hValid
    refine ⟨hUrl, _, hLocation hValid, rfl, ?_⟩
    intro hRound
    split
    · rfl
    · rw [hRound, hUrl]
  · intro s trims r code link u hReads hNames hHolds hLive
      hValid
    have hAnswer :=
      site.answer_of_held hReads hNames hHolds hLive
    rw [hLocation hValid] at hAnswer
    rw [respond_eq]
    exact hAnswer
  · intro start requests code link hEmpty hFound
    have hAccepted : start.links.store.Accepted := by
      rw [hEmpty]
      exact nofun
    exact site.serveAll_accepted hAccepted requests code link
      hFound
  · intro s trims r code link hReads hNames hHolds hLive
    have hAnswer :=
      site.answer_of_held hReads hNames hHolds hLive
    rw [respond_eq]
    rcases Location.ofLink_cases link.longUrl with
      ⟨_, hSelf⟩ | ⟨u, _, hUrl, hText⟩ | ⟨_, _, _, hNone⟩
    · rw [hSelf] at hAnswer
      exact Or.inl hAnswer
    · rw [hText] at hAnswer
      exact Or.inr (Or.inl ⟨u, hUrl, hAnswer⟩)
    · rw [hNone] at hAnswer
      exact Or.inr (Or.inr hAnswer)
  · intro s trims r v hLeads
    rw [respond_eq] at hLeads
    exact site.isPlain_of_answer hLeads

/- A service that holds a link no header can show as it is. -/
def sampleUrl : Url :=
  { scheme := "http".toList
    username := []
    password := none
    host := some (.ipv6 (List.replicate 8 0))
    port := none
    path := "/%C3%A9".toList
    query := none
    fragment := none }

def sampleHeld : Link :=
  { id := 1
    shortCode := "abc"
    longUrl := "http://[::]/é"
    originalUrl := "http://[::]/é"
    userId := none
    createdAt := ⟨0, 0, 0⟩
    expireAt := none }

def sampleService : App :=
  { App.init (.listed []) 1 with
      links :=
        { StoreBackend.fresh with
            store :=
              { bindings := [("abc", sampleHeld)]
                lastId := 1
                closed := false } } }

theorem sample_link_can_be_followed :
    let site : Site := ⟨.usual, 1000⟩
    let w : Surroundings := ⟨fun n => ⟨0, n, 0⟩, fun _ _ => 0⟩
    let r : Request := ⟨"GET", "/%61bc?q=1", [], []⟩
    let a := ((site.respond false r).run w sampleService).1
    Destination.validate sampleHeld.longUrl = .ok sampleUrl ∧
      Url.ofText "http://[::]/%C3%A9" =
        Url.ofText sampleHeld.longUrl ∧
      a.status = 302 ∧
      a.location = some "http://[::]/%C3%A9" := by
  intro site w r a
  have hValid :
      Destination.validate sampleHeld.longUrl =
        .ok sampleUrl := by decide +kernel
  have hRound : Url.ofText sampleUrl.text = .ok sampleUrl := by
    decide +kernel
  have hNames : Target.Names (seen false r) "abc" := by
    rw [Target.names_iff_spells]
    exact ⟨(Code.isCandidate_iff "abc").mp (by decide),
      "%61bc".toList, by decide,
      .escaped rfl rfl rfl (.plain 'b' (.plain 'c' .nil))⟩
  have hHolds : sampleService.Holds 1000 "abc" sampleHeld :=
    ⟨rfl, rfl, rfl⟩
  rcases created_links_can_be_followed site w with
    ⟨hLocations, hAnswers, _⟩
  rcases hLocations sampleHeld.longUrl sampleUrl hValid with
    ⟨_, v, _, hText, hSame⟩
  have hAnswer :=
    hAnswers sampleService false r "abc" sampleHeld sampleUrl
      (Or.inl rfl) hNames hHolds rfl hValid
  have hPlain : ¬ Location.IsPlain sampleHeld.longUrl := by
    decide
  have hChars : sampleUrl.text = "http://[::]/%C3%A9" := by
    decide +kernel
  rw [if_neg hPlain, hChars] at hText hAnswer
  rw [hText] at hSame
  exact ⟨hValid, hSame hRound, hAnswer⟩

end Site

end UrlShortener
