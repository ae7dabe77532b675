import Mathlib.Data.Nat.Find
import UrlShortener.Proofs.App.Attempts

/-
  The law of creations. A creation whose destination is
  accepted and whose expiry is within the calendar makes its
  attempts and nothing else: the first that decides gives
  its result, and if none does, the codes are exhausted.

  Key definitions include:
    * `Shortener.expiry?`
    * `Shortener.atFirstDraw`
    * `Shortener.Drafted`
    * `Shortener.Created`
    * `Shortener.Creates`
    * `Shortener.IsFree`
    * `Shortener.DrawsFirstFree`

  Main declarations:
    * `Shortener.run_create_eq`
    * `Shortener.drafted_of_run`
    * `Shortener.created_of_run`
    * `Shortener.result?_attemptAt_of_fit`
    * `Shortener.creates_first_free`
    * `Shortener.run_create_store`
    * `Shortener.first_deciding_attempt_ends_creation`
-/

------------------------------------------------------------
-- Creations
------------------------------------------------------------

namespace UrlShortener

namespace Shortener

/-
  The expiry of the link that a request makes at a time. A
  default expiry may lie beyond the calendar.
-/
def expiry?
    (policy : Policy)
    (request : LinkRequest)
    (now : Timestamp) : Option (Option Timestamp) :=
  match request.expireAt, policy.defaultTtl with
  | some at_, _ => some (some at_)
  | none, none => some none
  | none, some ttl => (now.addSeconds? ttl).map some

/- Whether the default expiry is counted from now. -/
def readsClock (policy : Policy) (request : LinkRequest) : Bool :=
  request.expireAt.isNone && policy.defaultTtl.isSome

/- The service when the first code is drawn. -/
def atFirstDraw
    (policy : Policy)
    (request : LinkRequest)
    (w : Surroundings)
    (s : App) : App :=
  if readsClock policy request then (s.readClock w).2 else s

variable {policy : Policy} {request : LinkRequest}
variable {w : Surroundings} {s : App}

/- A refused destination ends a creation at once. -/
theorem create_eq_of_refused
    (policy : Policy)
    {fault : DestinationFault}
    (hFault :
      Destination.validate request.longUrl = .error fault) :
    create policy request =
      .done (.error (.ofDestination request.longUrl fault)) := by
  unfold create
  rw [hFault]

/- A creation is its attempts, once its expiry is known. -/
theorem run_create_eq
    {u : Url}
    {expireAt : Option Timestamp}
    (hValid : Destination.validate request.longUrl = .ok u)
    (hExpiry :
      expiry? policy request (w.clock s.readings) =
        some expireAt) :
    let d :=
      attempt policy (request.draft expireAt)
        policy.maxAttempts
    let start := atFirstDraw policy request w s
    (create policy request).run w s = d.run w start ∧
      (create policy request).asks w s =
        (if readsClock policy request then [.clock] else [])
          ++ d.asks w start := by
  unfold expiry? at hExpiry
  unfold create withExpiry atFirstDraw readsClock
  rw [hValid]
  dsimp only
  split at hExpiry
  · rename_i at_ _ hGiven
    rw [hGiven]
    cases hExpiry
    exact ⟨rfl, rfl⟩
  · rename_i hGiven hTtl
    rw [hGiven, hTtl]
    cases hExpiry
    exact ⟨rfl, rfl⟩
  · rename_i ttl hGiven hTtl
    rw [hGiven, hTtl]
    rcases Option.map_eq_some_iff.mp hExpiry with
      ⟨at_, hAdd, rfl⟩
    simp only [Dialogue.run, Dialogue.asks, App.readClock, hAdd]
    exact ⟨rfl, rfl⟩

/- The clock has nothing to do with the links. -/
theorem atFirstDraw_links :
    (atFirstDraw policy request w s).links = s.links := by
  unfold atFirstDraw
  split
  · rfl
  · rfl

/- Nor has it to do with the draws. -/
theorem drawAt_atFirstDraw (n : Nat) :
    App.drawAt w policy.codeLength n
        (atFirstDraw policy request w s) =
      App.drawAt w policy.codeLength n s := by
  apply App.drawAt_congr
  · unfold atFirstDraw
    split
    · rfl
    · rfl
  · unfold atFirstDraw
    split
    · rfl
    · rfl

end Shortener

end UrlShortener

------------------------------------------------------------
-- Links That Were Created
------------------------------------------------------------

namespace UrlShortener

/- An attempt ends with a link just when it has saved it. -/
theorem Attempt.eq_saved_of_result?
    {policy : Policy}
    {a : Attempt}
    {link : Link}
    (hResult : a.result? policy = some (.ok link)) :
    ∃ new, a = .saved new (some (.ok link)) := by
  rcases a with fault | code | ⟨new, _ | fault | saved⟩
  · cases hResult
  · cases hResult
  · cases hResult
  · cases fault with
    | _ => cases hResult
  · cases hResult
    exact ⟨new, rfl⟩

namespace App

variable {policy : Policy} {draft : String → NewLink}
variable {w : Surroundings} {s : App} {n : Nat} {link : Link}

/-
  An attempt that ends with a link has drawn a code that is
  neither reserved nor taken, and stored the link under it.
-/
theorem drawn_of_attemptAt
    (hResult :
      (s.attemptAt policy draft w n).result? policy =
        some (.ok link)) :
    ∃ code now,
      drawAt w policy.codeLength n s = .ok code ∧
        Code.isReserved code = false ∧
        s.links.store.get? (draft code).shortCode = none ∧
        link = (s.links.store.insert (draft code) now).1 := by
  rcases Attempt.eq_saved_of_result? hResult with
    ⟨new, hSaved⟩
  unfold attemptAt at hSaved
  split at hSaved
  · cases hSaved
  · rename_i code hDraw
    split at hSaved
    · cases hSaved
    · rename_i hFree
      have hAnswer := (Attempt.saved.inj hSaved).2
      rcases s.links.endSave_cases _ (draft code) _ with
        ⟨_, hNone⟩ | ⟨hNew, hSave⟩
      · exact absurd hAnswer (hNone link)
      · rw [hSave] at hAnswer
        cases hAnswer
        exact ⟨code, _, hDraw, Bool.eq_false_iff.mpr hFree,
          hNew, rfl⟩

end App

end UrlShortener

namespace UrlShortener

namespace Shortener

variable {policy : Policy} {request : LinkRequest}
variable {w : Surroundings} {s : App} {link : Link}

/- Without a destination and an expiry, no link is created. -/
theorem expiry?_of_created
    (hCreated :
      ((create policy request).run w s).1 = .ok link) :
    ∃ u expireAt,
      Destination.validate request.longUrl = .ok u ∧
        expiry? policy request (w.clock s.readings) =
          some expireAt := by
  unfold create at hCreated
  split at hCreated
  · cases hCreated
  · rename_i u hValid
    refine ⟨u, ?_⟩
    unfold withExpiry at hCreated
    unfold expiry?
    cases hGiven : request.expireAt with
    | some at_ => exact ⟨some at_, hValid, rfl⟩
    | none =>
        rw [hGiven] at hCreated
        cases hTtl : policy.defaultTtl with
        | none => exact ⟨none, hValid, rfl⟩
        | some ttl =>
            rw [hTtl] at hCreated
            cases hAdd :
                (w.clock s.readings).addSeconds? ttl with
            | none =>
                simp only [Dialogue.run, App.readClock, hAdd]
                  at hCreated
                cases hCreated
            | some at_ =>
                exact ⟨some at_, hValid,
                  congrArg (Option.map some) hAdd⟩

/-
  How a link was made for a request: as the draft of a code
  that was drawn and free, with the expiry that the request
  has at the time.
-/
structure Drafted
    (policy : Policy)
    (request : LinkRequest)
    (w : Surroundings)
    (s : App)
    (expireAt : Option Timestamp)
    (link : Link) : Prop where
  accepted :
    ∃ u, Destination.validate request.longUrl = .ok u
  expiry :
    expiry? policy request (w.clock s.readings) = some expireAt
  drawn :
    ∃ n,
      App.drawAt w policy.codeLength n s = .ok link.shortCode
  free : Code.isReserved link.shortCode = false
  unused : s.links.store.get? link.shortCode = none
  made :
    ∃ code now,
      link =
        (s.links.store.insert (request.draft expireAt code)
          now).1
  stored :
    ((create policy request).run w s).2.links.store =
      s.links.store.adding (some link)

/- Every creation that answers a link has drafted it. -/
theorem drafted_of_run
    (hCreated :
      ((create policy request).run w s).1 = .ok link) :
    ∃ expireAt, Drafted policy request w s expireAt link := by
  rcases expiry?_of_created hCreated with
    ⟨u, expireAt, hValid, hExpiry⟩
  have hRun := (run_create_eq hValid hExpiry).1
  have hScans :=
    attempt_scans policy (request.draft expireAt) w
      policy.maxAttempts (atFirstDraw policy request w s)
  rw [hRun] at hCreated
  have hSome :
      ∃ n, n < policy.maxAttempts ∧
        ((atFirstDraw policy request w s).attemptAt policy
          (request.draft expireAt) w n).result? policy ≠
            none := by
    by_contra hNone
    push Not at hNone
    rw [(hScans.2 hNone).result_eq] at hCreated
    cases hCreated
  -- The first attempt that decides is the one that answered.
  classical
  rcases Nat.find_spec hSome with ⟨hLt, hDecides⟩
  rcases Option.ne_none_iff_exists'.mp hDecides with
    ⟨result, hResult⟩
  have hLast :=
    hScans.1 (Nat.find hSome) result hLt
      (fun k hBefore => by
        by_contra hOther
        exact Nat.find_min hSome hBefore
          ⟨Nat.lt_trans hBefore hLt, hOther⟩)
      hResult
  rw [hLast.result_eq] at hCreated
  subst hCreated
  rcases App.drawn_of_attemptAt hResult with
    ⟨code, now, hDraw, hFree, hNew, rfl⟩
  rw [drawAt_atFirstDraw] at hDraw
  rw [atFirstDraw_links] at hNew
  refine ⟨expireAt, ⟨u, hValid⟩, hExpiry, ⟨_, hDraw⟩, hFree,
    hNew, ⟨code, now, ?_⟩, ?_⟩
  · rw [atFirstDraw_links]
  · rw [hRun, hLast.store_eq, atFirstDraw_links]
    rfl

/-
  What is known of a link that was created: its destination
  was accepted, its code was drawn and is not reserved, and
  it is stored under that code.
-/
structure Created
    (policy : Policy)
    (request : LinkRequest)
    (w : Surroundings)
    (s : App)
    (link : Link) : Prop where
  accepted : ∃ u, Destination.validate link.longUrl = .ok u
  drawn :
    ∃ n,
      App.drawAt w policy.codeLength n s = .ok link.shortCode
  free : Code.isReserved link.shortCode = false
  stored :
    ((create policy request).run w s).2.links.store.get?
      link.shortCode = some link

/- What was drafted was created. -/
theorem Drafted.created
    {expireAt : Option Timestamp}
    (hDrafted : Drafted policy request w s expireAt link) :
    Created policy request w s link := by
  rcases hDrafted with
    ⟨hAccepted, _, hDrawn, hFree, hUnused, ⟨code, now, rfl⟩,
      hStored⟩
  refine ⟨hAccepted, hDrawn, hFree, ?_⟩
  rw [hStored]
  exact LinkStore.get?_insert_self hUnused

/- Every creation that answers a link has made it so. -/
theorem created_of_run
    (hCreated :
      ((create policy request).run w s).1 = .ok link) :
    Created policy request w s link := by
  rcases drafted_of_run hCreated with ⟨expireAt, hDrafted⟩
  exact hDrafted.created

end Shortener

end UrlShortener

------------------------------------------------------------
-- The Law Of The Attempts
------------------------------------------------------------

namespace UrlShortener

namespace Shortener

variable {policy : Policy} {request : LinkRequest}
variable {w : Surroundings} {s : App}

/-
  A creation makes some attempts and no others, asks for
  something more, and comes to a result. A code is drawn for
  each attempt, a collision is noted for each code that was
  taken, and just a link that is the result is stored.
-/
structure Creates
    (policy : Policy)
    (request : LinkRequest)
    (w : Surroundings)
    (s : App)
    (attempts : List Attempt)
    (last : List Ask)
    (result : Except Failure Link) : Prop where
  result_eq : ((create policy request).run w s).1 = result
  asks_eq :
    (create policy request).asks w s =
      (if readsClock policy request then [.clock] else [])
        ++ (attempts.flatMap Attempt.asks ++ last)
  draws_eq :
    ((create policy request).run w s).2.draws =
      s.draws + attempts.length
  collisions_eq :
    ((create policy request).run w s).2.metrics.collisions =
      s.metrics.collisions
        + attempts.countP Attempt.collides
  store_eq :
    ((create policy request).run w s).2.links.store =
      s.links.store.adding result.toOption

/- What is scanned from the first draw on is what is made. -/
theorem Scans.creates
    {u : Url}
    {expireAt : Option Timestamp}
    (hValid : Destination.validate request.longUrl = .ok u)
    (hExpiry :
      expiry? policy request (w.clock s.readings) =
        some expireAt)
    {n : Nat}
    {last : List Ask}
    {result : Except Failure Link}
    (hLast :
      last.count .code = 0 ∧
        last.count (.note .collisions) = 0)
    (hScans :
      Scans policy (request.draft expireAt) w
        (atFirstDraw policy request w s)
        (attempt policy (request.draft expireAt)
          policy.maxAttempts) n last result) :
    Creates policy request w s
      ((List.range n).map
        ((atFirstDraw policy request w s).attemptAt policy
          (request.draft expireAt) w)) last result := by
  rcases run_create_eq hValid hExpiry with ⟨hRun, hAsks⟩
  rw [hScans.asks_eq] at hAsks
  have hLead :
      ∀ a : Ask, a ≠ .clock →
        (if readsClock policy request then [Ask.clock]
          else []).count a = 0 := by
    intro a hOther
    apply List.count_eq_zero_of_not_mem
    split
    · exact fun hMem => hOther (List.mem_singleton.mp hMem)
    · exact List.not_mem_nil
  have hCounts :=
    Attempt.count_flatMap_asks
      ((List.range n).map
        ((atFirstDraw policy request w s).attemptAt policy
          (request.draft expireAt) w))
  constructor
  · rw [hRun]
    exact hScans.result_eq
  · exact hAsks
  · rw [Dialogue.run_draws, hAsks, List.count_append,
      List.count_append, hLead .code nofun, hCounts.1, hLast.1,
      Nat.zero_add, Nat.add_zero]
  · have hTotal :=
      Dialogue.run_metrics (w := w) .collisions
        (create policy request) s
    rw [hAsks, List.count_append, List.count_append,
      hLead (.note .collisions) nofun, hCounts.2, hLast.2,
      Nat.zero_add, Nat.add_zero] at hTotal
    exact hTotal
  · rw [hRun, hScans.store_eq, atFirstDraw_links]

/- A code under which a link can be stored. -/
def IsFree (s : LinkStore) (code : String) : Prop :=
  Code.isReserved code = false ∧ s.get? code = none

instance (s : LinkStore) (code : String) :
    Decidable (IsFree s code) :=
  inferInstanceAs (Decidable (_ ∧ _))

/-
  An attempt at a store that is open and answers in time
  stores a link under a free code, and is passed over if the
  code is not free.
-/
theorem result?_attemptAt_of_fit
    (policy : Policy)
    (draft : String → NewLink)
    (w : Surroundings)
    (s : App)
    (hDraft : ∀ code, (draft code).shortCode = code)
    (hOpen : s.links.store.closed = false)
    (hReplies :
      ∀ reply ∈ s.links.saves,
        reply.within policy.storeTimeout = some none)
    {n : Nat}
    {code : String}
    (hDraw : App.drawAt w policy.codeLength n s = .ok code) :
    (IsFree s.links.store code →
      ∃ now,
        (s.attemptAt policy draft w n).result? policy =
          some (.ok ((draft code).stored
            (s.links.store.lastId + 1) now))) ∧
    (¬ IsFree s.links.store code →
      (s.attemptAt policy draft w n).result? policy =
        none) := by
  have hCame :
      ∀ k,
        (s.replyAt k).within policy.storeTimeout =
          some none := by
    intro k
    unfold App.replyAt
    cases hReply : s.links.saves[k]? with
    | none =>
        exact Reply.within_eq_some_iff.mpr
          ⟨0, rfl, Nat.zero_le _⟩
    | some reply =>
        exact hReplies reply (List.mem_of_getElem? hReply)
  simp only [App.attemptAt, hDraw, hCame]
  by_cases hReserved : Code.isReserved code = true
  · rw [if_pos hReserved]
    constructor
    · rintro ⟨hNot, _⟩
      rw [hReserved] at hNot
      cases hNot
    · intro _
      rfl
  · rw [if_neg hReserved]
    have hAnswer (now : Timestamp) :
        (s.links.endSave (some none) (draft code) now).1 =
          some (s.links.store.save (draft code) now).1 := rfl
    rw [hAnswer]
    rcases s.links.store.save_cases (draft code) _ with
      ⟨hClosed, _⟩ | ⟨_, hTaken, hSave⟩ | ⟨_, hFree, hSave⟩
    · rw [hOpen] at hClosed
      cases hClosed
    · rw [hSave]
      constructor
      · rintro ⟨_, hNone⟩
        rw [hDraft, hNone] at hTaken
        cases hTaken
      · intro _
        rfl
    · rw [hSave]
      constructor
      · intro _
        exact ⟨_, rfl⟩
      · intro hNot
        rw [hDraft] at hFree
        exact absurd
          ⟨Bool.eq_false_iff.mpr hReserved, hFree⟩ hNot

/- So are the attempts that a creation makes. -/
theorem result?_attemptAt_atFirstDraw
    {expireAt : Option Timestamp}
    (hOpen : s.links.store.closed = false)
    (hReplies :
      ∀ reply ∈ s.links.saves,
        reply.within policy.storeTimeout = some none)
    {n : Nat}
    {code : String}
    (hDraw : App.drawAt w policy.codeLength n s = .ok code) :
    let draft := request.draft expireAt
    let a :=
      (atFirstDraw policy request w s).attemptAt policy draft w n
    (IsFree s.links.store code →
      ∃ now,
        a.result? policy =
          some (.ok ((draft code).stored
            (s.links.store.lastId + 1) now))) ∧
    (¬ IsFree s.links.store code →
      a.result? policy = none) := by
  intro draft a
  have hAttempt :=
    result?_attemptAt_of_fit policy draft w
      (atFirstDraw policy request w s) (fun _ => rfl)
      (by rw [atFirstDraw_links]; exact hOpen)
      (by rw [atFirstDraw_links]; exact hReplies)
      (drawAt_atFirstDraw n |>.trans hDraw)
  rw [atFirstDraw_links] at hAttempt
  exact hAttempt

/-
  An attempt that draws the first free code: the codes that
  are drawn before it can be passed over.
-/
structure DrawsFirstFree
    (policy : Policy)
    (w : Surroundings)
    (s : App)
    (n : Nat)
    (code : String) : Prop where
  lt : n < policy.maxAttempts
  drawn : App.drawAt w policy.codeLength n s = .ok code
  free : IsFree s.links.store code
  before :
    ∀ k < n, ∃ other,
      App.drawAt w policy.codeLength k s = .ok other ∧
        ¬ IsFree s.links.store other

/-
  At a store that is open and answers in time, the first
  free code that is drawn is the code of the link.
-/
theorem creates_first_free
    {u : Url}
    {expireAt : Option Timestamp}
    (hValid : Destination.validate request.longUrl = .ok u)
    (hExpiry :
      expiry? policy request (w.clock s.readings) =
        some expireAt)
    (hOpen : s.links.store.closed = false)
    (hReplies :
      ∀ reply ∈ s.links.saves,
        reply.within policy.storeTimeout = some none)
    {n : Nat}
    {code : String}
    (hFirst : DrawsFirstFree policy w s n code) :
    let draft := request.draft expireAt
    ∃ now,
      Creates policy request w s
        ((List.range (n + 1)).map
          ((atFirstDraw policy request w s).attemptAt policy
            draft w)) []
        (.ok ((draft code).stored
          (s.links.store.lastId + 1) now)) := by
  intro draft
  rcases (result?_attemptAt_atFirstDraw hOpen hReplies
      hFirst.drawn).1 hFirst.free with
    ⟨now, hResult⟩
  have hPassed :
      ∀ k < n,
        ((atFirstDraw policy request w s).attemptAt policy
          draft w k).result? policy = none := by
    intro k hK
    rcases hFirst.before k hK with ⟨other, hDraw, hTaken⟩
    exact (result?_attemptAt_atFirstDraw hOpen hReplies
      hDraw).2 hTaken
  have hScans :=
    (attempt_scans policy draft w policy.maxAttempts
        (atFirstDraw policy request w s)).1 n _ hFirst.lt
      hPassed hResult
  exact ⟨now, hScans.creates hValid hExpiry ⟨rfl, rfl⟩⟩

/- Just a link that is the result of a creation is stored. -/
theorem run_create_store
    {u : Url}
    {expireAt : Option Timestamp}
    (hValid : Destination.validate request.longUrl = .ok u)
    (hExpiry :
      expiry? policy request (w.clock s.readings) =
        some expireAt) :
    let run := (create policy request).run w s
    run.2.links.store =
      s.links.store.adding run.1.toOption := by
  intro run
  rcases exists_scans policy (request.draft expireAt) w
      policy.maxAttempts (atFirstDraw policy request w s) with
    ⟨n, last, result, hScans⟩
  have hRun : run = _ := (run_create_eq hValid hExpiry).1
  rw [hRun, hScans.store_eq, hScans.result_eq,
    atFirstDraw_links]

/-
  A creation goes through its attempts in order, as many as
  it may make. What becomes of each is settled by the draws,
  the replies to saves and the links at the start. Reserved
  codes and codes that are taken are passed over; the first
  attempt that comes to anything else is the last, and its
  result is the result. If there is none, the codes are
  exhausted. So at a store that is open and answers in time,
  the first free code is the code of the link.
-/
theorem first_deciding_attempt_ends_creation
    (policy : Policy)
    (request : LinkRequest)
    (w : Surroundings)
    (s : App)
    {u : Url}
    {expireAt : Option Timestamp}
    (hValid : Destination.validate request.longUrl = .ok u)
    (hExpiry :
      expiry? policy request (w.clock s.readings) =
        some expireAt) :
    let draft := request.draft expireAt
    let attemptAt :=
      (atFirstDraw policy request w s).attemptAt policy draft w
    (∀ n result, n < policy.maxAttempts →
      (∀ k < n, (attemptAt k).result? policy = none) →
      (attemptAt n).result? policy = some result →
        Creates policy request w s
          ((List.range (n + 1)).map attemptAt) [] result) ∧
    ((∀ k < policy.maxAttempts,
        (attemptAt k).result? policy = none) →
      Creates policy request w s
        ((List.range policy.maxAttempts).map attemptAt)
        [.note .exhausted]
        (.error (.exhausted policy.maxAttempts))) ∧
    (s.links.store.closed = false →
      (∀ reply ∈ s.links.saves,
        reply.within policy.storeTimeout = some none) →
      ∀ code : Nat → String,
        (∀ k < policy.maxAttempts,
          App.drawAt w policy.codeLength k s =
            .ok (code k)) →
        (∀ n < policy.maxAttempts,
          IsFree s.links.store (code n) →
          (∀ k < n, ¬ IsFree s.links.store (code k)) →
            ∃ now,
              ((create policy request).run w s).1 =
                .ok ((draft (code n)).stored
                  (s.links.store.lastId + 1) now)) ∧
        ((∀ k < policy.maxAttempts,
            ¬ IsFree s.links.store (code k)) →
          ((create policy request).run w s).1 =
            .error (.exhausted policy.maxAttempts))) := by
  intro draft attemptAt
  have hScans :=
    attempt_scans policy draft w policy.maxAttempts
      (atFirstDraw policy request w s)
  have hFirst :
      ∀ n result, n < policy.maxAttempts →
        (∀ k < n, (attemptAt k).result? policy = none) →
        (attemptAt n).result? policy = some result →
          Creates policy request w s
            ((List.range (n + 1)).map attemptAt) [] result := by
    intro n result hLt hBefore hResult
    exact (hScans.1 n result hLt hBefore hResult).creates
      hValid hExpiry ⟨rfl, rfl⟩
  have hNone :
      (∀ k < policy.maxAttempts,
          (attemptAt k).result? policy = none) →
        Creates policy request w s
          ((List.range policy.maxAttempts).map attemptAt)
          [.note .exhausted]
          (.error (.exhausted policy.maxAttempts)) := by
    intro hPassed
    exact (hScans.2 hPassed).creates hValid hExpiry ⟨rfl, rfl⟩
  refine ⟨hFirst, hNone, ?_⟩
  intro hOpen hReplies code hDraws
  constructor
  · intro n hLt hFree hBefore
    have hDrawn : DrawsFirstFree policy w s n (code n) :=
      ⟨hLt, hDraws n hLt, hFree, fun k hK =>
        ⟨code k, hDraws k (Nat.lt_trans hK hLt),
          hBefore k hK⟩⟩
    rcases creates_first_free hValid hExpiry hOpen hReplies
        hDrawn with
      ⟨now, hCreates⟩
    exact ⟨now, hCreates.result_eq⟩
  · intro hTaken
    have hPassed :
        ∀ k < policy.maxAttempts,
          (attemptAt k).result? policy = none := by
      intro k hK
      exact (result?_attemptAt_atFirstDraw hOpen hReplies
        (hDraws k hK)).2 (hTaken k hK)
    exact (hNone hPassed).result_eq

end Shortener

end UrlShortener

namespace UrlShortener

namespace Shortener

/- A service that will draw a reserved, a taken and a free code. -/
def sampleRequest : LinkRequest :=
  { longUrl := "http://[::]", originalUrl := none
    userId := none, expireAt := none }

def sampleTaken : Link :=
  (sampleRequest.draft none "abc").stored 1 ⟨0, 0, 0⟩

def sampleDraws : App :=
  { App.init
        (.listed [.given "api", .given "abc", .given "def"])
        1 with
      links :=
        { StoreBackend.fresh with
            store := LinkStore.empty.adding (some sampleTaken) } }

theorem sample_third_attempt_ends_creation :
    let policy : Policy :=
      { Policy.usual with maxAttempts := 3, defaultTtl := none }
    let w : Surroundings := ⟨fun n => ⟨0, n, 0⟩, fun _ _ => 0⟩
    let draft := sampleRequest.draft none
    let link := (draft "def").stored 2 ⟨0, 1, 0⟩
    Creates policy sampleRequest w sampleDraws
      [.reserved "api",
        .saved (draft "abc") (some (.error (.conflict "abc"))),
        .saved (draft "def") (some (.ok link))]
      [] (.ok link) := by
  intro policy w draft link
  have hValid :
      ∃ u, Destination.validate sampleRequest.longUrl = .ok u :=
    ⟨_, rfl⟩
  rcases hValid with ⟨u, hValid⟩
  have hExpiry :
      expiry? policy sampleRequest (w.clock 0) = some none :=
    rfl
  have hLaw :=
    first_deciding_attempt_ends_creation policy sampleRequest w
      sampleDraws hValid hExpiry
  refine hLaw.1 2 _ (by decide) ?_ rfl
  intro k hLt
  match k, hLt with
  | 0, _ => rfl
  | 1, _ => rfl

end Shortener

end UrlShortener
