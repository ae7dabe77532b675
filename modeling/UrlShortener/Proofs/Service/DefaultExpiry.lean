import Mathlib.Algebra.Group.Nat.Defs
import UrlShortener.Number.Signed
import UrlShortener.Proofs.App.Creation
import UrlShortener.Proofs.Http.Failures
import UrlShortener.Proofs.Settings.Validity
import UrlShortener.Proofs.Time.Later

/-
  The default expiry of links. Hours become a span of time in
  steps, each with a limit of its own, and a span that passes
  a limit is none at all: it never comes out shorter, or
  negative. The expiry of a link then lies just so many hours
  later, and is stored so under the first free code that is
  drawn. Where the calendar does not reach it, nothing is
  drawn or saved.

  Key definitions include:
    * `Policy.steppedTtl?`
    * `Shortener.SavesWith`
    * `Shortener.EndsUnreached`

  Main declarations:
    * `Policy.ttlOfHours_eq_stepped`
    * `Shortener.expireAt_of_created`
    * `Shortener.savesWith_of_expiry?`
    * `Shortener.endsUnreached_of_expiry?`
    * `Shortener.default_expiries_never_wrap`
-/

------------------------------------------------------------
-- Hours As A Span
------------------------------------------------------------

namespace UrlShortener

namespace Policy

/- A number that fits into a signed word. -/
def signedWord? (n : Nat) : Option Nat :=
  if n ≤ Signed.maxNumber then some n else none

/-
  The seconds of hours, in steps: the hours and the seconds
  each fit into a signed word, and a span has a limit in
  milliseconds. No hours are no span.
-/
def steppedTtl? (hours : Nat) : Option Int := do
  let counted ← signedWord? hours
  if counted = 0 then none
  else
    let seconds ← signedWord? (counted * 3600)
    if seconds * 1000 ≤ maxTtlMillis then some (seconds : Int)
    else none

variable {hours : Nat}

/- Of the limits, that of spans is the closest. -/
theorem ttlOfHours_eq_stepped :
    ttlOfHours hours = steppedTtl? hours := by
  unfold ttlOfHours steppedTtl? signedWord?
  rw [show maxTtlMillis = Signed.maxNumber from rfl]
  generalize Signed.maxNumber = limit
  have hMillis : hours * 3600 * 1000 = hours * 3600000 :=
    Nat.mul_assoc hours 3600 1000
  by_cases hZero : hours = 0
  · subst hZero
    simp
  · by_cases hSpan : hours * 3600000 ≤ limit
    · have hLimits : ¬ (hours = 0 ∨ limit < hours * 3600000) := by
        omega
      have hHours : hours ≤ limit := by omega
      have hSeconds : hours * 3600 ≤ limit :=
        Nat.le_trans
          (Nat.mul_le_mul_left hours (by decide)) hSpan
      rw [if_neg hLimits]
      simp [hHours, hZero, hSeconds, hMillis, hSpan]
    · have hLimits : hours = 0 ∨ limit < hours * 3600000 := by
        omega
      rw [if_pos hLimits]
      by_cases hHours : hours ≤ limit
      · by_cases hSeconds : hours * 3600 ≤ limit
        · simp [hHours, hZero, hSeconds, hMillis, hSpan]
        · simp [hHours, hZero, hSeconds]
      · simp [hHours]

/- There is no default expiry for no hours, or too many. -/
theorem ttlOfHours_eq_none_iff :
    ttlOfHours hours = none ↔
      hours = 0 ∨ 2 ^ 63 - 1 < hours * 3600000 := by
  have hLimit : maxTtlMillis = 2 ^ 63 - 1 := rfl
  unfold ttlOfHours
  rw [hLimit]
  split
  · rename_i hLimits
    exact iff_of_true rfl hLimits
  · rename_i hLimits
    exact iff_of_false nofun hLimits

/- The most hours that are a span, and one more. -/
example :
    ttlOfHours 2562047788015 = some 9223372036854000 ∧
      ttlOfHours 2562047788016 = none := by
  decide

/- Otherwise it is just those hours. -/
theorem eq_of_ttlOfHours_eq_some
    {ttl : Int}
    (hTtl : ttlOfHours hours = some ttl) :
    ttl = hours * 3600 ∧ 0 < ttl := by
  unfold ttlOfHours at hTtl
  split at hTtl
  · cases hTtl
  · rename_i hLimits
    cases hTtl
    omega

end Policy

end UrlShortener

------------------------------------------------------------
-- Failures Of Attempts
------------------------------------------------------------

namespace UrlShortener

namespace Shortener

/- A result other than that the calendar ends too early. -/
def Reached (result : Except Failure Link) : Prop :=
  ∀ ttl, result ≠ .error (unreachableExpiry ttl)

/- What is not an internal failure is no such failure. -/
theorem reached_of_kind
    {failure : Failure}
    (hKind : failure.kind ≠ .internal) :
    Reached (.error failure) := by
  rintro ttl hSame
  cases hSame
  exact hKind rfl

/- Nor is an internal failure of other words. -/
theorem reached_of_message
    {message : String}
    {details : Json}
    (hMessage : message ≠ "Default expiry is out of range") :
    Reached (.error (.internal message details)) := by
  rintro ttl hSame
  cases hSame
  exact hMessage rfl

/- Faults of the store are told in other words. -/
theorem reached_ofStore (fault : StoreFault) :
    Reached (.error (.ofStore fault)) := by
  cases fault with
  | notFound => exact reached_of_kind nofun
  | conflict code => exact reached_of_kind nofun
  | _ => exact reached_of_message (by decide)

/- Once the attempts begin, the calendar has been reached. -/
theorem attempt_closes_reached
    (policy : Policy)
    (draft : String → NewLink)
    (left : Nat)
    (events : List Event) :
    (attempt policy draft left).Closes (fun _ => Reached)
      events := by
  induction left generalizing events with
  | zero => exact reached_of_kind nofun
  | succ left ih =>
      rintro (fault | code)
      · exact reached_of_message (by decide)
      · dsimp only
        split
        · exact ih _
        · rintro (_ | fault | link)
          · exact reached_ofStore _
          · cases fault with
            | conflict code => exact ih _
            | _ => exact reached_ofStore _
          · exact nofun

end Shortener

end UrlShortener

------------------------------------------------------------
-- Creations With An Expiry
------------------------------------------------------------

namespace UrlShortener

namespace Shortener

/-
  A creation whose links have one expiry. To an accepted
  destination it makes its attempts with drafts of this
  expiry. All that it saves has this expiry, and a link that
  it answers is stored with it; nothing else is stored. And
  a link is stored: at a store that is open and answers in
  time, under the first free code that is drawn.
-/
structure SavesWith
    (policy : Policy)
    (request : LinkRequest)
    (w : Surroundings)
    (s : App)
    (expireAt : Option Timestamp) : Prop where
  attempts :
    ∀ u, Destination.validate request.longUrl = .ok u →
      (create policy request).run w s =
        (attempt policy (request.draft expireAt)
          policy.maxAttempts).run w
            (atFirstDraw policy request w s)
  saved :
    ∀ new, .save new ∈ (create policy request).asks w s →
      new.expireAt = expireAt
  stored :
    ∀ link, ((create policy request).run w s).1 = .ok link →
      link.expireAt = expireAt ∧
        ((create policy request).run w s).2.links.store.get?
          link.shortCode = some link
  store_eq :
    ((create policy request).run w s).2.links.store =
      s.links.store.adding
        ((create policy request).run w s).1.toOption
  stores :
    ∀ u, Destination.validate request.longUrl = .ok u →
      s.links.store.closed = false →
      (∀ reply ∈ s.links.saves,
        reply.within policy.storeTimeout = some none) →
      ∀ n code, DrawsFirstFree policy w s n code →
        ∃ link,
          ((create policy request).run w s).1 = .ok link ∧
            link.shortCode = code ∧
            link.longUrl = request.longUrl ∧
            link.expireAt = expireAt ∧
            ((create policy request).run w s).2.links.store.get?
              code = some link
  reached : Reached ((create policy request).run w s).1

/-
  A creation that ends because the calendar does: the failure
  is internal, the clock was read, and nothing else was done.
-/
structure EndsUnreached
    (policy : Policy)
    (request : LinkRequest)
    (w : Surroundings)
    (s : App)
    (ttl : Int) : Prop where
  internal : (unreachableExpiry ttl).kind = .internal
  fails :
    ∀ u, Destination.validate request.longUrl = .ok u →
      (create policy request).run w s =
        (.error (unreachableExpiry ttl), (s.readClock w).2)
  asks : ∀ a ∈ (create policy request).asks w s, a = .clock

variable {policy : Policy} {request : LinkRequest}
variable {w : Surroundings} {s : App}

/- What is saved for a draft has the expiry of the draft. -/
theorem expireAt_of_save_mem_attempt
    {expireAt : Option Timestamp}
    {left : Nat} :
    ∀ new,
      .save new ∈
          (attempt policy (request.draft expireAt) left).asks
            w s →
        new.expireAt = expireAt := by
  intro new hSave
  have hAsk :
      AttemptsAsk (request.draft expireAt)
        fun a => ∀ new, a = .save new →
          new.expireAt = expireAt := by
    refine ⟨nofun, ?_, nofun⟩
    rintro code new hSame
    cases hSame
    rfl
  exact (attempt_within policy hAsk left).asks s _ hSave
    new rfl

/- A link that is created has the expiry of its request. -/
theorem expireAt_of_created
    {expireAt : Option Timestamp}
    {link : Link}
    (hExpiry :
      expiry? policy request (w.clock s.readings) =
        some expireAt)
    (hCreated :
      ((create policy request).run w s).1 = .ok link) :
    link.expireAt = expireAt := by
  rcases drafted_of_run hCreated with ⟨given, hDrafted⟩
  have hSame : some expireAt = some given :=
    hExpiry.symm.trans hDrafted.expiry
  cases hSame
  rcases hDrafted.made with ⟨code, now, rfl⟩
  rfl

/- A creation that is refused saves nothing at all. -/
theorem savesWith_of_refused
    (expireAt : Option Timestamp)
    {fault : DestinationFault}
    (hFault :
      Destination.validate request.longUrl = .error fault) :
    SavesWith policy request w s expireAt := by
  have hCreate := create_eq_of_refused policy hFault
  have hNever :
      ∀ u, Destination.validate request.longUrl ≠ .ok u := by
    rw [hFault]
    exact nofun
  constructor
  case attempts => exact fun u hOk => absurd hOk (hNever u)
  case saved =>
    rw [hCreate]
    exact nofun
  case stored =>
    rw [hCreate]
    exact nofun
  case store_eq =>
    rw [hCreate]
    rfl
  case stores => exact fun u hOk => absurd hOk (hNever u)
  case reached =>
    rw [hCreate]
    exact reached_of_kind nofun

/- A creation whose expiry is known saves with this expiry. -/
theorem savesWith_of_expiry?
    {expireAt : Option Timestamp}
    (hExpiry :
      expiry? policy request (w.clock s.readings) =
        some expireAt) :
    SavesWith policy request w s expireAt := by
  cases hValid : Destination.validate request.longUrl with
  | error fault => exact savesWith_of_refused expireAt hValid
  | ok u =>
      rcases run_create_eq hValid hExpiry with ⟨hRun, hAsks⟩
      constructor
      case attempts => exact fun _ _ => hRun
      case saved =>
        intro new hSave
        rw [hAsks] at hSave
        rcases List.mem_append.mp hSave with hClock | hAttempt
        · split at hClock
          · cases List.mem_singleton.mp hClock
          · cases hClock
        · exact expireAt_of_save_mem_attempt new hAttempt
      case stored =>
        intro link hCreated
        exact ⟨expireAt_of_created hExpiry hCreated,
          (created_of_run hCreated).stored⟩
      case store_eq => exact run_create_store hValid hExpiry
      case stores =>
        intro _ _ hOpen hReplies n code hFirst
        rcases creates_first_free hValid hExpiry hOpen hReplies
            hFirst with
          ⟨now, hCreates⟩
        exact ⟨_, hCreates.result_eq, rfl, rfl, rfl,
          (created_of_run hCreates.result_eq).stored⟩
      case reached =>
        rw [hRun]
        exact (attempt_closes_reached policy _ _ []).run _

/- A creation whose expiry is beyond the calendar ends. -/
theorem endsUnreached_of_expiry?
    {ttl : Int}
    (hGiven : request.expireAt = none)
    (hTtl : policy.defaultTtl = some ttl)
    (hNone : (w.clock s.readings).addSeconds? ttl = none) :
    EndsUnreached policy request w s ttl := by
  cases hValid : Destination.validate request.longUrl with
  | error fault =>
      have hCreate := create_eq_of_refused policy hValid
      refine ⟨rfl, ?_, ?_⟩
      · intro u hOk
        rw [hValid] at hOk
        cases hOk
      · rw [hCreate]
        exact nofun
  | ok u =>
      have hClock :
          ∃ next,
            create policy request = .readClock next ∧
              next (w.clock s.readings) =
                .done (.error (unreachableExpiry ttl)) := by
        unfold create withExpiry
        rw [hValid, hGiven, hTtl]
        refine ⟨_, rfl, ?_⟩
        dsimp only
        rw [hNone]
      rcases hClock with ⟨next, hCreate, hEnd⟩
      refine ⟨rfl, ?_, ?_⟩
      · intro _ _
        rw [hCreate]
        simp only [Dialogue.run, App.readClock, hEnd]
      · rw [hCreate]
        simp only [Dialogue.asks, App.readClock, hEnd,
          List.mem_singleton, imp_self, implies_true]

end Shortener

end UrlShortener

------------------------------------------------------------
-- The Law Of Default Expiries
------------------------------------------------------------

namespace UrlShortener

namespace Shortener

variable {policy : Policy} {request : LinkRequest}
variable {w : Surroundings} {s : App}

/-
  A default expiry lies just as many seconds later as it
  takes, unless the calendar ends before.
-/
theorem defaultExpiry_cases
    {ttl : Int}
    (hGiven : request.expireAt = none)
    (hTtl : policy.defaultTtl = some ttl)
    (hPos : 0 < ttl)
    (hNow : (w.clock s.readings).IsInstant) :
    let now := w.clock s.readings
    (now.epochSeconds + ttl ≤ Timestamp.lastSecond →
      ∃ at_ : Timestamp, at_.IsInstant ∧ at_.nano < 1000000000 ∧
        now.nanosUntil at_ = ttl * 1000000000 ∧
        now.before at_ = true ∧
        SavesWith policy request w s (some at_)) ∧
    (Timestamp.lastSecond < now.epochSeconds + ttl →
      EndsUnreached policy request w s ttl) := by
  intro now
  constructor
  · intro hLast
    have hSome : now.addSeconds? ttl ≠ none := by
      intro hNone
      rw [Timestamp.addSeconds?_eq_none_iff hNow hPos] at hNone
      exact Int.not_le.mpr hNone hLast
    rcases Option.ne_none_iff_exists'.mp hSome with ⟨at_, hAdd⟩
    rcases (Timestamp.addSeconds?_eq_some_iff hNow hPos).mp
        hAdd with ⟨hLater, hPlain, hNanos⟩
    refine ⟨at_, hLater, hPlain, hNanos,
      Timestamp.before_of_addSeconds? hNow hPos hAdd, ?_⟩
    apply savesWith_of_expiry?
    unfold expiry?
    rw [hGiven, hTtl]
    exact congrArg (Option.map some) hAdd
  · intro hBeyond
    exact endsUnreached_of_expiry? hGiven hTtl
      ((Timestamp.addSeconds?_eq_none_iff hNow hPos).mpr
        hBeyond)

/-
  No default expiry wraps. Of the hours of the settings,
  taken in steps with their limits, there is either no span
  or one of just those hours. An expiry that is given is
  stored as it is, and without a span none is stored. With
  one, the expiry lies that many hours later, and where the
  calendar ends before, the creation fails before it draws a
  code. Under valid settings the calendar lasts for all that
  is created until the end of the year 9999.
-/
theorem default_expiries_never_wrap
    (settings : Settings)
    (request : LinkRequest)
    (w : Surroundings)
    (s : App)
    (hNow : (w.clock s.readings).IsInstant) :
    let policy := Policy.ofSettings settings
    let hours := settings.expiryHours
    let now := w.clock s.readings
    policy.defaultTtl = Policy.steppedTtl? hours ∧
    (policy.defaultTtl = none ↔
      hours = 0 ∨ 2 ^ 63 - 1 < hours * 3600000) ∧
    (∀ ttl, policy.defaultTtl = some ttl →
      ttl = hours * 3600) ∧
    (∀ at_, request.expireAt = some at_ →
      SavesWith policy request w s (some at_)) ∧
    (request.expireAt = none → policy.defaultTtl = none →
      SavesWith policy request w s none) ∧
    (∀ ttl, request.expireAt = none →
      policy.defaultTtl = some ttl →
      (now.epochSeconds + hours * 3600 ≤
          Timestamp.lastSecond →
        ∃ at_ : Timestamp,
          at_.IsInstant ∧ at_.nano < 1000000000 ∧
          now.nanosUntil at_ =
            hours * 3600 * 1000000000 ∧
          now.before at_ = true ∧
          SavesWith policy request w s (some at_)) ∧
      (Timestamp.lastSecond <
          now.epochSeconds + hours * 3600 →
        EndsUnreached policy request w s ttl)) ∧
    (settings.check = .ok () →
      now.day ≤ Date.toDays ⟨9999, 12, 31⟩ →
        now.epochSeconds + hours * 3600 ≤
            Timestamp.lastSecond ∧
          ∃ expireAt,
            SavesWith policy request w s expireAt) := by
  intro policy hours now
  have hTtlOf :
      policy.defaultTtl = Policy.ttlOfHours hours := rfl
  have hGiven :
      ∀ at_, request.expireAt = some at_ →
        SavesWith policy request w s (some at_) := by
    intro at_ hGiven
    apply savesWith_of_expiry?
    unfold expiry?
    rw [hGiven]
  have hNever :
      request.expireAt = none → policy.defaultTtl = none →
        SavesWith policy request w s none := by
    intro hAbsent hNone
    apply savesWith_of_expiry?
    unfold expiry?
    rw [hAbsent, hNone]
  have hDefault :
      ∀ ttl, request.expireAt = none →
        policy.defaultTtl = some ttl → _ := fun ttl hAbsent hTtl =>
    defaultExpiry_cases (w := w) (s := s) hAbsent hTtl
      (Policy.eq_of_ttlOfHours_eq_some hTtl).2 hNow
  have hExact :
      ∀ ttl, policy.defaultTtl = some ttl →
        ttl = hours * 3600 := fun ttl hTtl =>
    (Policy.eq_of_ttlOfHours_eq_some hTtl).1
  refine ⟨hTtlOf.trans Policy.ttlOfHours_eq_stepped,
    Policy.ttlOfHours_eq_none_iff, hExact, hGiven, hNever,
    ?_, ?_⟩
  · intro ttl hAbsent hTtl
    have hCases := hDefault ttl hAbsent hTtl
    rw [← hExact ttl hTtl]
    exact hCases
  · intro hValid hYear
    have hHours : hours ≤ 876000 :=
      (Settings.check_eq_ok_iff_valid.mp hValid).expiryHours
    have hLast :
        now.epochSeconds + hours * 3600 ≤
          Timestamp.lastSecond := by
      have hDay : Date.toDays ⟨9999, 12, 31⟩ = 2932896 := rfl
      have hEnd : Date.lastDay = 95026236 := rfl
      have hSecond : now.second < 86400 := hNow.second_lt
      rw [hDay] at hYear
      rw [Timestamp.epochSeconds, Timestamp.lastSecond, hEnd]
      omega
    refine ⟨hLast, ?_⟩
    cases hAbsent : request.expireAt with
    | some at_ => exact ⟨some at_, hGiven at_ hAbsent⟩
    | none =>
        cases hTtl : policy.defaultTtl with
        | none => exact ⟨none, hNever hAbsent hTtl⟩
        | some ttl =>
            rw [← hExact ttl hTtl] at hLast
            rcases (hDefault ttl hAbsent hTtl).1 hLast with
              ⟨at_, _, _, _, _, hSaves⟩
            exact ⟨some at_, hSaves⟩

/- The usual expiry is stored thirty days later. -/
theorem usual_expiry_lies_thirty_days_later :
    let policy := Policy.ofSettings .usual
    let w : Surroundings := ⟨fun n => ⟨0, n, 0⟩, fun _ _ => 0⟩
    let run := (create policy sampleRequest).run w sampleDraws
    (w.clock sampleDraws.readings).IsInstant ∧
    ∃ at_ : Timestamp,
      (w.clock sampleDraws.readings).nanosUntil at_ =
        2592000000000000 ∧
      SavesWith policy sampleRequest w sampleDraws
        (some at_) ∧
      ∃ link,
        run.1 = .ok link ∧ link.expireAt = some at_ ∧
          run.2.links.store.get? "def" = some link := by
  intro policy w run
  have hNow : (w.clock sampleDraws.readings).IsInstant := by
    decide
  have hLaw :=
    default_expiries_never_wrap .usual sampleRequest w
      sampleDraws hNow
  rcases hLaw with ⟨_, _, _, _, _, hDefault, _⟩
  rcases (hDefault 2592000 rfl rfl).1 (by decide) with
    ⟨at_, _, _, hNanos, _, hSaves⟩
  have hValid :
      ∃ u, Destination.validate sampleRequest.longUrl = .ok u :=
    ⟨_, rfl⟩
  rcases hValid with ⟨u, hValid⟩
  -- The first code is reserved, and the second is taken.
  have hFirst :
      DrawsFirstFree policy w sampleDraws 2 "def" := by
    refine ⟨by decide, rfl, by decide, ?_⟩
    intro k hLt
    match k, hLt with
    | 0, _ => exact ⟨"api", rfl, by decide⟩
    | 1, _ => exact ⟨"abc", rfl, by decide⟩
  rcases hSaves.stores u hValid rfl nofun 2 "def" hFirst with
    ⟨link, hCreated, _, _, hExpiry, hStored⟩
  exact ⟨hNow, at_, hNanos, hSaves, link, hCreated, hExpiry,
    hStored⟩

end Shortener

end UrlShortener
