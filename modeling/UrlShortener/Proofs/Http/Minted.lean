import Mathlib.Data.List.TakeWhile
import UrlShortener.App.Startup
import UrlShortener.Proofs.App.Creation
import UrlShortener.Proofs.App.Permanence
import UrlShortener.Proofs.Http.Redirects
import UrlShortener.Proofs.Settings.Validity

/-
  What is minted is served. With settings that are valid, a
  link that is created over random codes has a code of the
  length that was set, made of letters and digits, and no
  word that the service keeps for itself. So a request for
  its path looks up that code and no other, and while the
  link lives and the store answers, it is redirected.

  Main declarations:
    * `Target.names_of_isName`
    * `Startup.minted_links_are_served`
-/

------------------------------------------------------------
-- The Path Of A Code
------------------------------------------------------------

namespace UrlShortener

namespace Code

/- A minted code of a proper length could be a link's. -/
theorem isName_of_isMinted
    {length : Nat}
    {code : String}
    (hMinted : Mint.IsMinted length code)
    (hLength : 1 ≤ length ∧ length ≤ 64)
    (hFree : isReserved code = false) : IsName code where
  length_pos := by
    rw [hMinted.length_eq]
    exact hLength.1
  length_le := by
    rw [hMinted.length_eq]
    exact hLength.2
  symbols := by
    intro c hMem
    rw [← isCodeChar_iff, isCodeChar, hMinted.symbols c hMem]
    rfl
  free := by
    unfold isReserved at hFree
    rw [List.contains_eq_mem, decide_eq_false_iff_not] at hFree
    exact hFree

/- No symbol of a code ends a path. -/
theorem IsSymbol.not_endsPath
    {c : Char}
    (hSymbol : IsSymbol c) : Target.endsPath c = false := by
  have hMarks :
      isCodeChar c = true → Target.endsPath c = false :=
    Utf8.forall_ascii (by decide +kernel) hSymbol.plain.1
  exact hMarks ((isCodeChar_iff c).mpr hSymbol)

end Code

/- A text without escapes spells itself. -/
theorem Percent.Spells.self (cs : List Char) :
    Spells cs cs := by
  induction cs with
  | nil => exact .nil
  | cons c cs ih => exact .plain c ih

namespace Target

variable {code : String}

/- The path of a code is read as it is. -/
theorem path_of_isName (hName : Code.IsName code) :
    path ("/" ++ code) = '/' :: code.toList := by
  have hChars :
      ("/" ++ code).toList = '/' :: code.toList := by
    rw [String.toList_append]
    rfl
  have hBare :
      bare ('/' :: code.toList) = '/' :: code.toList := by
    unfold bare
    rw [List.takeWhile_eq_self_iff]
    intro c hMem
    rcases List.mem_cons.mp hMem with rfl | hMem
    · rfl
    · rw [(hName.symbols c hMem).not_endsPath]
      rfl
  unfold path
  rw [hChars, hBare]
  rfl

/- It has no slashes to be trimmed. -/
theorem trimmed_of_isName (hName : Code.IsName code) :
    trimmed ('/' :: code.toList) = '/' :: code.toList := by
  have hNonempty : code.toList ≠ [] := by
    rw [← List.length_pos_iff, String.length_toList]
    exact hName.length_pos
  have hLast : ('/' :: code.toList).getLast? ≠ some '/' := by
    intro hLast
    rw [List.getLast?_cons_of_ne_nil hNonempty] at hLast
    exact hName.no_slash (List.mem_of_getLast? hLast)
  unfold trimmed
  split
  · rename_i rest hPath
    apply absurd hName.no_slash
    rw [(List.cons.inj hPath).2]
    exact not_not.mpr List.mem_cons_self
  · rw [if_neg hLast]

/- So a request for the path of a code names the code. -/
theorem names_of_isName
    (hName : Code.IsName code)
    (trims : Bool)
    {r : Request}
    (hTarget : r.target = "/" ++ code) :
    Names (Site.seen trims r) code := by
  have hSeen : Site.seen trims r = '/' :: code.toList := by
    unfold Site.seen
    rw [hTarget, path_of_isName hName,
      trimmed_of_isName hName, ite_self]
  rw [names_iff_spells]
  exact ⟨hName, code.toList, hSeen, .self code.toList⟩

end Target

end UrlShortener

------------------------------------------------------------
-- Minted Links
------------------------------------------------------------

namespace UrlShortener

namespace Startup

variable {settings : Settings} {request : LinkRequest}
variable {w : Surroundings} {s : App} {link : Link}

/- Over random codes, the code of a link is minted. -/
theorem isMinted_of_created
    (hMinter : s.minter = .random)
    (hCreated :
      Shortener.Created (site settings).policy request w s
        link) :
    Mint.IsMinted settings.codeLength link.shortCode := by
  rcases hCreated.drawn with ⟨n, hDraw⟩
  rw [App.drawAt_random hMinter] at hDraw
  exact Minter.isMinted_of_mintRandom hDraw

/- A link that was created is redirected, not refused. -/
theorem redirectTo_status
    {policy : Policy}
    (hCreated : Shortener.Created policy request w s link) :
    (Site.redirectTo link).status = 302 := by
  rcases hCreated.accepted with ⟨u, hAccepted⟩
  have hUrl := Destination.ofText_of_validate hAccepted
  rcases Location.ofLink_cases link.longUrl with
    ⟨_, hSelf⟩ | ⟨u, _, _, hText⟩ | ⟨fault, _, hFault, _⟩
  · rw [Site.redirectTo, hSelf]
    rfl
  · rw [Site.redirectTo, hText]
    rfl
  · rw [hUrl] at hFault
    cases hFault

/-
  With valid settings and random codes, the code of every
  link that is created has the length that was set and is
  made of letters and digits, and it could name a link. A
  request for its path, trimmed or not, is a resolution of
  that code. Whatever happens between, it is answered with
  the link and a redirect if the store is open and answers
  in time, unless the link has expired.
-/
theorem minted_links_are_served
    (settings : Settings)
    (request : LinkRequest)
    (w : Surroundings)
    (s : App)
    {link : Link}
    (hValid : settings.check = .ok ())
    (hMinter : s.minter = .random)
    (hCreated :
      ((Shortener.create (.ofSettings settings) request).run w
        s).1 = .ok link) :
    let site := Startup.site settings
    let code := link.shortCode
    let created :=
      ((Shortener.create (.ofSettings settings) request).run w
        s).2
    code.length = settings.codeLength ∧
    (∀ c ∈ code.toList,
      ('A' ≤ c ∧ c ≤ 'Z') ∨ ('a' ≤ c ∧ c ≤ 'z') ∨
        ('0' ≤ c ∧ c ≤ '9')) ∧
    Code.isCandidate code = true ∧
    ∀ (trims : Bool) (r : Request),
      r.method = "GET" → r.target = "/" ++ code →
      site.respond trims r =
        (Shortener.resolve site.policy code).map
          Site.resolved ∧
      (∀ w' t, (site.respond trims r).lookUps w' t = [code]) ∧
      ∀ (c : Conditions) (moves : List TrafficMove),
        let t := ((Traffic.start created).run c moves).app
        t.links.store.closed = false →
        t.beginFind.1.within site.policy.storeTimeout =
          some none →
        link.expiredAt (c.surroundings.clock t.readings) =
          false →
          ((Shortener.resolve site.policy code).run
            c.surroundings t).1 = .ok link ∧
          ((site.respond trims r).run c.surroundings t).1 =
            Site.redirectTo link ∧
          (Site.redirectTo link).status = 302 := by
  intro site code created
  have hLink := Shortener.created_of_run hCreated
  have hMinted := isMinted_of_created hMinter hLink
  have hLength := Settings.codeLength_of_check hValid
  have hName : Code.IsName code :=
    Code.isName_of_isMinted hMinted (by omega) hLink.free
  refine ⟨hMinted.length_eq, ?_,
    (Code.isCandidate_iff code).mpr hName, ?_⟩
  · intro c hMem
    exact (Utf8.isAlphanum_iff c).mp (hMinted.symbols c hMem)
  · intro trims r hMethod hTarget
    have hNames := Target.names_of_isName hName trims hTarget
    have hAnswer :
        site.respond trims r =
          (Shortener.resolve site.policy code).map
            Site.resolved := by
      rw [Site.respond_eq, site.answer_of_names hNames,
        Site.reading, if_pos hMethod]
    refine ⟨hAnswer, ?_, ?_⟩
    · intro w' t
      rw [Site.respond_eq]
      exact site.lookUps_of_follows
        (Request.follows?_eq_some_iff.mpr
          ⟨Or.inl hMethod, hNames⟩) t
    · intro c moves t hOpen hAnswers hLive
      have hLater :=
        Traffic.extends_run (c := c) (Traffic.start created)
          moves
      have hResolved :=
        Shortener.run_resolve_of_live hName.not_blank
          ⟨hLater.found hLink.stored, hOpen, hAnswers⟩ hLive
      refine ⟨hResolved, ?_, redirectTo_status hLink⟩
      rw [hAnswer, Dialogue.run_map, hResolved]
      rfl

/- A service whose random bytes are all zero. -/
def sampleSurroundings : Surroundings :=
  { clock := fun n => ⟨0, n, 0⟩, entropy := fun _ _ => 0 }

def sampleSettings : Settings :=
  { Settings.usual with expiryHours := 0 }

def sampleLink : Link :=
  (Shortener.sampleRequest.draft none "AAAAAAA").stored 1
    ⟨0, 0, 0⟩

theorem sample_creation :
    ((Shortener.create (.ofSettings sampleSettings)
      Shortener.sampleRequest).run sampleSurroundings
        (state sampleSettings)).1 = .ok sampleLink := by
  have hOk
      {x : Except Failure Link}
      (hLink : x.toOption = some sampleLink) :
      x = .ok sampleLink := by
    cases x with
    | error failure => cases hLink
    | ok link => exact congrArg Except.ok (Option.some.inj hLink)
  apply hOk
  decide +kernel

theorem sample_minted_link_is_served :
    let created :=
      ((Shortener.create (.ofSettings sampleSettings)
        Shortener.sampleRequest).run sampleSurroundings
          (state sampleSettings)).2
    let site := Startup.site sampleSettings
    let r : Request := ⟨"GET", "/AAAAAAA", [], []⟩
    (site.respond true r).lookUps sampleSurroundings created =
        ["AAAAAAA"] ∧
      ((site.respond true r).run sampleSurroundings created).1 =
        .redirect "http://[::]" := by
  intro created site r
  have hServed :=
    minted_links_are_served sampleSettings
      Shortener.sampleRequest sampleSurroundings
      (state sampleSettings) rfl rfl sample_creation
  rcases hServed.2.2.2 true r rfl (by decide +kernel) with
    ⟨_, hLookUps, hLater⟩
  have hNow :=
    hLater ⟨sampleSurroundings, .usual, .usual, fun _ _ => 0⟩
      [] (by decide +kernel) (by decide +kernel) rfl
  exact ⟨hLookUps sampleSurroundings created, hNow.2.1⟩

end Startup

end UrlShortener
