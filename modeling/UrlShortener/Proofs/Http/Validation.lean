import UrlShortener.Proofs.App.Creation
import UrlShortener.Proofs.Http.Bodies
import UrlShortener.Proofs.Http.Failures
import UrlShortener.Proofs.Http.LookUps

/-
  Requests to create a link are checked before anything is
  done. A request is refused if its body is not taken for a
  link request, if a text in it is too long, or if its
  destination is not accepted. Just these requests are
  answered as bad ones, and they leave the service as it was.
  What is answered to the others when a link was created is
  that link, and it is stored as it was asked for.

  Key definitions include:
    * `LinkRequest.Fits`
    * `LinkRequest.Asks`
    * `Request.Carries`
    * `Request.Refused`
    * `Response.Shows`

  Main declarations:
    * `Request.carries_print_iff`
    * `Intake.read_eq_ok_iff`
    * `Site.create_of_refused`
    * `Site.create_closes_ok`
    * `Site.creations_are_checked_first`
-/

------------------------------------------------------------
-- Requests That Are Refused
------------------------------------------------------------

namespace UrlShortener

namespace LinkRequest

/- A request without texts that are too long, in characters. -/
structure Fits (request : LinkRequest) : Prop where
  longUrl : request.longUrl.length ≤ 2048
  originalUrl : ∀ url ∈ request.originalUrl, url.length ≤ 2048
  userId : ∀ user ∈ request.userId, user.length ≤ 128

/- Just the texts that are too long are named. -/
theorem oversized_eq_nil_iff
    {request : LinkRequest} :
    request.oversized = [] ↔ request.Fits := by
  have hLimit
      (limit : Nat)
      (text : String) :
      exceeds limit text = false ↔ text.length ≤ limit := by
    rw [exceeds, decide_eq_false_iff_not, Nat.not_lt]
  have hAny
      (limit : Nat)
      (text : Option String) :
      text.any (exceeds limit) = false ↔
        ∀ s ∈ text, s.length ≤ limit := by
    cases text with
    | none => exact iff_of_true rfl nofun
    | some s =>
        simp only [Option.any_some, hLimit, Option.mem_some_iff,
          forall_eq']
  simp only [oversized, List.filterMap_eq_nil_iff,
    List.forall_mem_cons, ite_eq_right_iff, reduceCtorEq,
    imp_false, Bool.not_eq_true, hLimit, hAny]
  constructor
  · rintro ⟨hUrl, hOriginal, hUser, _⟩
    exact ⟨hUrl, hOriginal, hUser⟩
  · rintro ⟨hUrl, hOriginal, hUser⟩
    exact ⟨hUrl, hOriginal, hUser, nofun⟩

end LinkRequest

namespace Request

/-
  The link request that is in the body of a request, which
  is said to be JSON and is not too long.
-/
structure Carries (r : Request) (request : LinkRequest) : Prop where
  typed : r.saysJson = true
  short : r.body.length ≤ 2097152
  read : LinkBody.read r.body = .ok request

/- In a printed body is what its value encodes. -/
theorem carries_print_iff
    {r : Request}
    {request : LinkRequest}
    {v : Json}
    (hBody : r.body = Utf8.bytes v.print) :
    r.Carries request ↔
      r.saysJson = true ∧ r.body.length ≤ 2097152 ∧
        LinkBody.Encodes v request := by
  have hRead :
      LinkBody.read r.body = .ok request ↔
        LinkBody.Encodes v request := by
    rw [hBody, Json.bytes_print]
    exact LinkBody.read_bytes_eq_ok_iff
  constructor
  · rintro ⟨hTyped, hShort, hOk⟩
    exact ⟨hTyped, hShort, hRead.mp hOk⟩
  · rintro ⟨hTyped, hShort, hEncodes⟩
    exact ⟨hTyped, hShort, hRead.mpr hEncodes⟩

/- A request that is refused, and where. -/
inductive Refused (r : Request) : Prop where
| unread (hNone : ∀ request, ¬ r.Carries request)
| oversized
    {request : LinkRequest}
    (hCarries : r.Carries request)
    (hLong : ¬ request.Fits)
| unaccepted
    {request : LinkRequest}
    {fault : DestinationFault}
    (hCarries : r.Carries request)
    (hFault :
      Destination.validate request.longUrl = .error fault)

end Request

namespace Intake

variable {r : Request} {request : LinkRequest}

/- What is let in is carried, and fits. -/
theorem read_eq_ok_iff :
    read r = .ok request ↔
      r.Carries request ∧ request.Fits := by
  rw [← LinkRequest.oversized_eq_nil_iff]
  unfold read
  constructor
  · intro hRead
    split at hRead
    · cases hRead
    · rename_i hTyped
      split at hRead
      · cases hRead
      · rename_i hShort
        split at hRead
        · cases hRead
        · rename_i found hBody
          split at hRead
          · rename_i hFits
            cases hRead
            rw [Bool.not_eq_true', Bool.not_eq_false] at hTyped
            exact ⟨⟨hTyped, Nat.not_lt.mp hShort, hBody⟩, hFits⟩
          · cases hRead
  · rintro ⟨⟨hTyped, hShort, hBody⟩, hFits⟩
    have hNotLong : ¬ maxBody < r.body.length :=
      Nat.not_lt.mpr hShort
    rw [hTyped, hBody, if_neg hNotLong]
    dsimp only
    rw [hFits]
    rfl

end Intake

end UrlShortener

------------------------------------------------------------
-- Bad Requests
------------------------------------------------------------

namespace UrlShortener

/- A creation fails as a bad request for its destination. -/
theorem CreationFails.refused_of_status
    {policy : Policy}
    {request : LinkRequest}
    {events : List Event}
    {failure : Failure}
    (hFails : CreationFails policy request events failure)
    (hStatus : failure.status = 400) :
    ∃ fault,
      Destination.validate request.longUrl = .error fault := by
  cases hFails with
  | refused fault hFault => exact ⟨fault, hFault⟩
  | unsaved fault hSaved hOther =>
      cases fault with
      | _ => cases hStatus
  | _ => cases hStatus

namespace Request

variable {r : Request} {request : LinkRequest}

/- A body is read in one way only. -/
theorem Carries.unique
    {other : LinkRequest}
    (hCarries : r.Carries request)
    (hOther : r.Carries other) : other = request := by
  have hSame := hOther.read
  rw [hCarries.read] at hSame
  cases hSame
  rfl

/- What is let in is not refused, if its destination is fine. -/
theorem not_refused
    {u : Url}
    (hRead : Intake.read r = .ok request)
    (hValid : Destination.validate request.longUrl = .ok u) :
    ¬ r.Refused := by
  rcases Intake.read_eq_ok_iff.mp hRead with ⟨hCarries, hFits⟩
  intro hRefused
  cases hRefused with
  | unread hNone => exact hNone request hCarries
  | oversized hOther hLong =>
      cases hCarries.unique hOther
      exact hLong hFits
  | unaccepted hOther hFault =>
      cases hCarries.unique hOther
      rw [hValid] at hFault
      cases hFault

/- Everything else is. -/
theorem refused_or_accepted (r : Request) :
    r.Refused ∨
      ∃ request u, Intake.read r = .ok request ∧
        Destination.validate request.longUrl = .ok u := by
  by_cases hSome : ∃ request, r.Carries request
  · rcases hSome with ⟨request, hCarries⟩
    by_cases hFits : request.Fits
    · have hRead := Intake.read_eq_ok_iff.mpr ⟨hCarries, hFits⟩
      cases hValid : Destination.validate request.longUrl with
      | error fault => exact .inl (.unaccepted hCarries hValid)
      | ok u => exact .inr ⟨request, u, hRead, hValid⟩
    · exact .inl (.oversized hCarries hFits)
  · exact .inl (.unread (not_exists.mp hSome))

end Request

namespace Site

variable (site : Site) {r : Request} {request : LinkRequest}

/- A refused request is answered at once, and as a bad one. -/
theorem create_of_refused
    (hRefused : r.Refused) :
    ∃ answer, site.create r = .done answer ∧
      answer.status = 400 := by
  cases hRead : Intake.read r with
  | error fault =>
      refine ⟨.ofFailure fault.failure, ?_, rfl⟩
      unfold create
      rw [hRead]
  | ok request =>
      cases hValid : Destination.validate request.longUrl with
      | ok u =>
          exact absurd hRefused (Request.not_refused hRead hValid)
      | error fault =>
          refine ⟨.ofFailure (.ofDestination request.longUrl
            fault), ?_, rfl⟩
          unfold create
          rw [hRead]
          dsimp only
          rw [Shortener.create_eq_of_refused _ hValid]
          rfl

/- Whatever happens to the others, they were no bad requests. -/
theorem create_closes_ok
    {u : Url}
    (hRead : Intake.read r = .ok request)
    (hValid : Destination.validate request.longUrl = .ok u) :
    (site.create r).Closes
      (fun _ answer => answer.status ≠ 400) [] := by
  unfold create
  rw [hRead]
  refine (Shortener.create_closes site.policy [] request).map ?_
  intro events result hFails
  cases result with
  | ok link => exact nofun
  | error failure =>
      intro hStatus
      have hBad : failure.status = 400 := hStatus
      rcases hFails.refused_of_status hBad with ⟨fault, hFault⟩
      rw [hValid] at hFault
      cases hFault

/- The answer is that the request is bad, just if it is refused. -/
theorem status_create_iff
    {events : List Event}
    {answer : Response}
    (hAfter :
      (site.create r).after events = some (.done answer)) :
    answer.status = 400 ↔ r.Refused := by
  rcases r.refused_or_accepted with
    hRefused | ⟨request, u, hRead, hValid⟩
  · rcases site.create_of_refused hRefused with
      ⟨bad, hDone, hStatus⟩
    rw [hDone] at hAfter
    cases Dialogue.after_done hAfter
    exact iff_of_true hStatus hRefused
  · have hOther := (site.create_closes_ok hRead hValid).after hAfter
    exact iff_of_false hOther (Request.not_refused hRead hValid)

end Site

end UrlShortener

------------------------------------------------------------
-- Links That Are Shown
------------------------------------------------------------

namespace UrlShortener

/- A link that is as it was asked for. -/
structure LinkRequest.Asks
    (request : LinkRequest)
    (link : Link) : Prop where
  longUrl : link.longUrl = request.longUrl
  userId : link.userId = request.userId
  expireAt :
    ∀ at_, request.expireAt = some at_ →
      link.expireAt = some at_
  given :
    ∀ url, request.originalUrl = some url → url ≠ "" →
      link.originalUrl = url
  absent :
    request.originalUrl = none ∨ request.originalUrl = some "" →
      link.originalUrl = request.longUrl

/- An answer whose body shows a link. -/
def Response.Shows
    (answer : Response)
    (link : Link) : Prop :=
  ∃ body, answer.body = some body ∧
    body.field? "short_code" = some (.text link.shortCode) ∧
    body.field? "long_url" = some (.text link.longUrl) ∧
    body.field? "original_url" =
      some (.text link.originalUrl) ∧
    body.field? "created_at" =
      some (.text link.createdAt.text) ∧
    body.field? "expire_at" =
      link.expireAt.map fun at_ => .text at_.text

/- What is drafted for a request is as it was asked for. -/
theorem Shortener.Drafted.asks
    {policy : Policy}
    {request : LinkRequest}
    {w : Surroundings}
    {s : App}
    {expireAt : Option Timestamp}
    {link : Link}
    (hDrafted :
      Drafted policy request w s expireAt link) :
    request.Asks link := by
  rcases hDrafted.made with ⟨code, now, rfl⟩
  refine ⟨rfl, rfl, ?_, ?_, ?_⟩
  · intro at_ hGiven
    have hExpiry := hDrafted.expiry
    unfold expiry? at hExpiry
    rw [hGiven] at hExpiry
    cases hExpiry
    rfl
  · intro url hGiven hSome
    change request.original = url
    rw [LinkRequest.original, hGiven]
    exact if_neg (String.isEmpty_iff.not.mpr hSome)
  · intro hAbsent
    change request.original = request.longUrl
    rw [LinkRequest.original]
    rcases hAbsent with hNone | hEmpty
    · rw [hNone]
    · rw [hEmpty]
      rfl

namespace Site

/- The answer to a creation shows the link. -/
theorem created_shows (link : Link) :
    (created link).Shows link := by
  refine ⟨_, rfl, rfl, rfl, rfl, rfl, ?_⟩
  cases link.expireAt with
  | none => rfl
  | some at_ => rfl

/- What a creation that ended so is answered with. -/
def answered : Except Failure Link → Response
| .ok link => created link
| .error failure => .ofFailure failure

/- What is answered as created was created. -/
theorem exists_of_status_answered
    {result : Except Failure Link}
    (hStatus : (answered result).status = 201) :
    ∃ link, result = .ok link := by
  cases result with
  | ok link => exact ⟨link, rfl⟩
  | error failure =>
      cases failure with
      | _ => cases hStatus

variable (site : Site) {r : Request} {trims : Bool}

/- What is let in is created. -/
theorem create_of_read
    {request : LinkRequest}
    (hRead : Intake.read r = .ok request) :
    site.create r =
      (Shortener.create site.policy request).map answered := by
  unfold create
  rw [hRead]
  refine congrArg (Dialogue.map · _) ?_
  funext result
  cases result with
  | ok link => rfl
  | error failure => rfl

/- A link that is answered is stored and shown as asked for. -/
theorem asks_of_status
    {w : Surroundings}
    {s : App}
    (hStatus : ((site.create r).run w s).1.status = 201) :
    ∃ request link, r.Carries request ∧ request.Asks link ∧
      ((site.create r).run w s).2.links.store.get?
        link.shortCode = some link ∧
      ((site.create r).run w s).1.Shows link := by
  rcases r.refused_or_accepted with
    hRefused | ⟨request, u, hRead, hValid⟩
  · rcases site.create_of_refused hRefused with
      ⟨answer, hDone, hBad⟩
    rw [hDone] at hStatus
    change answer.status = 201 at hStatus
    rw [hBad] at hStatus
    cases hStatus
  · rw [site.create_of_read hRead, Dialogue.run_map] at hStatus ⊢
    rcases exists_of_status_answered hStatus with
      ⟨link, hLink⟩
    rcases Shortener.drafted_of_run hLink with
      ⟨expireAt, hDrafted⟩
    refine ⟨request, link, (Intake.read_eq_ok_iff.mp hRead).1,
      hDrafted.asks, hDrafted.created.stored, ?_⟩
    dsimp only
    rw [hLink]
    exact created_shows link

/- The path of the links leads to their creation. -/
theorem respond_eq_create
    (hMethod : r.method = "POST")
    (hPath : seen trims r = "/api/links".toList) :
    site.respond trims r = site.create r := by
  have hRoute :
      Route.ofPath? "/api/links".toList = some .links := by
    decide
  rw [respond_eq, hPath, answer, hRoute]
  exact if_pos hMethod

/-
  Take a request to create a link. If its body is a printed
  value, it carries what this value encodes. It is answered
  as a bad request just if it is refused, whatever happens.
  Then nothing is asked of the service, which stays as it
  is. If a link is answered, it is stored under its code, it
  is as the request has asked for, and it is what the answer
  shows.
-/
theorem creations_are_checked_first
    (hMethod : r.method = "POST")
    (hPath : seen trims r = "/api/links".toList) :
    (∀ v request, r.body = Utf8.bytes v.print →
      (r.Carries request ↔
        r.saysJson = true ∧ r.body.length ≤ 2097152 ∧
          LinkBody.Encodes v request)) ∧
    (r.Refused →
      ∃ answer, site.respond trims r = .done answer ∧
        answer.status = 400) ∧
    (∀ events answer,
      (site.respond trims r).after events =
          some (.done answer) →
        (answer.status = 400 ↔ r.Refused)) ∧
    ∀ w s,
      let ran := (site.respond trims r).run w s
      (ran.1.status = 400 ↔ r.Refused) ∧
      (r.Refused →
        ran.2 = s ∧ (site.respond trims r).asks w s = []) ∧
      (ran.1.status = 201 →
        ∃ request link, r.Carries request ∧
          request.Asks link ∧
          ran.2.links.store.get? link.shortCode = some link ∧
          ran.1.Shows link) := by
  rw [respond_eq_create site hMethod hPath]
  refine ⟨fun _ _ => Request.carries_print_iff,
    site.create_of_refused,
    fun _ _ => site.status_create_iff, ?_⟩
  intro w s ran
  refine ⟨?_, ?_, ?_⟩
  · rcases Dialogue.exists_course w (site.create r) s with
      ⟨events, hAfter⟩
    exact site.status_create_iff hAfter
  · intro hRefused
    rcases site.create_of_refused hRefused with
      ⟨answer, hDone, _⟩
    have hRan : ran = (answer, s) := by
      change (site.create r).run w s = _
      rw [hDone]
      rfl
    refine ⟨congrArg Prod.snd hRan, ?_⟩
    rw [hDone]
    rfl
  · exact site.asks_of_status

/- A request to create a link, with a text as its body. -/
def samplePost (body : String) : Request :=
  { method := "POST", target := "/api/links"
    headers := [("Content-Type", "application/json")]
    body := Utf8.bytes body }

/- A link without a destination is refused, one with is not. -/
theorem sample_creations_are_checked_first :
    let site : Site := ⟨.usual, 500⟩
    let w : Surroundings := ⟨fun n => ⟨0, n, 0⟩, fun _ _ => 0⟩
    let bare := samplePost "\x7b\x7d"
    let whole := samplePost
      "\x7b\"long_url\":\"http://[::]\"\x7d"
    (∃ answer, site.respond true bare = .done answer ∧
      answer.status = 400) ∧
    ∃ request link, whole.Carries request ∧
      request.Asks link ∧
      ((site.respond true whole).run w
        Shortener.sampleDraws).2.links.store.get?
          link.shortCode = some link ∧
      ((site.respond true whole).run w
        Shortener.sampleDraws).1.Shows link := by
  intro site w bare whole
  have hBare : bare.Refused := by
    refine .unread ?_
    intro request hCarries
    have hRead := hCarries.read
    have hFails :
        (LinkBody.read bare.body).toOption = none := by
      decide +kernel
    rw [hRead] at hFails
    cases hFails
  have hLawBare :=
    @creations_are_checked_first site bare true rfl
      (by decide +kernel)
  have hLawWhole :=
    @creations_are_checked_first site whole true rfl
      (by decide +kernel)
  refine ⟨hLawBare.2.1 hBare, ?_⟩
  exact (hLawWhole.2.2.2 w Shortener.sampleDraws).2.2
    (by decide +kernel)

end Site

end UrlShortener
