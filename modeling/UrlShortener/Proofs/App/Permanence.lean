import UrlShortener.Proofs.App.Traffic

/-
  Links are permanent. However calls of the service and the
  worker are interleaved, a code that was given to a link is
  given to no other, and the link that a creation answered
  is what every later look-up of its code finds, until it
  expires; from then on, its code is unknown for good.

  Key definitions include:
    * `Traffic.Sound`
    * `Traffic.Remembers`
    * `App.Phase`

  Main declarations:
    * `Traffic.Sound.step`
    * `Traffic.Remembers.step`
    * `App.Extends.phase_le`
    * `Traffic.created_links_are_permanent`
-/

------------------------------------------------------------
-- What Calls Have Met
------------------------------------------------------------

namespace UrlShortener

namespace ServiceCall

variable {policy : Policy} {call : ServiceCall}
variable {events : List Event}

/- Only a creation saves links, and it drew their codes. -/
theorem drew_of_save
    {limit : Nat}
    {new : NewLink}
    {next :
      Option (Except StoreFault Link) →
      Dialogue ServiceAnswer}
    (hAfter :
      (call.dialogue policy).after events =
        some (.save limit new next)) :
    .drew (.ok new.shortCode) ∈ events := by
  cases call with
  | create request =>
      rw [dialogue, Dialogue.after_map,
        Option.map_eq_some_iff] at hAfter
      rcases hAfter with ⟨rest, hRest, hMap⟩
      cases rest <;> cases hMap
      exact (Shortener.create_after policy request hRest).of_save
        _ _ _ rfl
  | resolve code =>
      have hWithin :=
        ((Shortener.resolve_within policy code).map
          ServiceAnswer.resolved).after hAfter
      exact hWithin.1.elim
  | stats code =>
      have hWithin :=
        ((Shortener.stats_within policy code).map
          ServiceAnswer.counted).after hAfter
      cases hWithin.1

/- A resolution that found a link judged it off the clock. -/
theorem judged_of_resolved
    {code : String}
    {link : Link}
    {answer : ServiceAnswer}
    (hAfter :
      ((resolve code).dialogue policy).after events =
        some (.done answer))
    (hFound : .found (some (.ok link)) ∈ events) :
    ∃ now, .clock now ∈ events ∧
      answer =
        .resolved (Shortener.judged code link now) := by
  rw [dialogue, Dialogue.after_map,
    Option.map_eq_some_iff] at hAfter
  rcases hAfter with ⟨rest, hRest, hMap⟩
  cases rest <;> cases hMap
  rcases Shortener.resolve_after_done policy hRest hFound with
    ⟨now, hNow, hOutcome⟩
  exact ⟨now, hNow, congrArg _ hOutcome⟩

end ServiceCall

end UrlShortener

------------------------------------------------------------
-- The Links Of All Calls
------------------------------------------------------------

namespace UrlShortener

namespace Traffic

/-
  The service is fit, every call is where its events led it,
  codes that were drawn are not blank, links that were saved
  are found under their codes, and no two calls have saved
  links of one number.
-/
structure Sound (c : Conditions) (t : Traffic) : Prop where
  fit : t.app.Fit
  followed :
    ∀ a ∈ t.tickets,
      (a.call.dialogue c.policy).after a.events = some a.rest
  drawn :
    ∀ a ∈ t.tickets, ∀ code, .drew (.ok code) ∈ a.events →
      Text.isBlankText code = false
  kept :
    ∀ a ∈ t.tickets, ∀ link, a.Saved link →
      t.app.links.store.get? link.shortCode = some link ∧
        Text.isBlankText link.shortCode = false ∧
        link.id ≤ t.app.links.store.lastId
  apart :
    ∀ {n m : Nat} {a b : Ticket}, n ≠ m →
      t.tickets[n]? = some a → t.tickets[m]? = some b →
        ∀ link other : Link, a.Saved link → b.Saved other →
          link.id ≠ other.id

variable {c : Conditions} {t t' : Traffic}

theorem sound_start
    {app : App}
    (hFit : app.Fit) : Sound c (start app) where
  fit := hFit
  followed := by simp [start]
  drawn := by simp [start]
  kept := by simp [start]
  apart := by simp [start]

namespace Sound

/- A call that begins has saved nothing. -/
theorem began
    (hSound : Sound c t)
    (call : ServiceCall) :
    Sound c
      { t with
          tickets :=
            t.tickets ++ [Ticket.fresh c.policy call] } where
  fit := hSound.fit
  followed := by
    intro a hMem
    rcases List.mem_append.mp hMem with hOld | hNew
    · exact hSound.followed a hOld
    · rw [List.mem_singleton] at hNew
      subst hNew
      rfl
  drawn := by
    intro a hMem code hDrew
    rcases List.mem_append.mp hMem with hOld | hNew
    · exact hSound.drawn a hOld code hDrew
    · rw [List.mem_singleton] at hNew
      subst hNew
      cases hDrew
  kept := by
    intro a hMem link hSaved
    rcases List.mem_append.mp hMem with hOld | hNew
    · exact hSound.kept a hOld link hSaved
    · rw [List.mem_singleton] at hNew
      subst hNew
      cases hSaved
  apart := by
    intro n m a b hApart hFirst hSecond link other hSaved hOther
    rcases ticket_of_append hFirst with hFirst | ⟨_, rfl⟩
    · rcases ticket_of_append hSecond with
        hSecond | ⟨_, rfl⟩
      · exact hSound.apart hApart hFirst hSecond link other
          hSaved hOther
      · cases hOther
    · cases hSaved

section Went

variable {n : Nat} {a : Ticket} {e : Event}
variable {rest : Dialogue ServiceAnswer} {app : App}

/-
  A link that a step has saved is new: its code was free, its
  code was drawn, and its number is greater than all others.
-/
theorem of_saved
    (hSound : Sound c t)
    (hMem : a ∈ t.tickets)
    {link : Link}
    (hStep :
      a.rest.proceed? c.surroundings t.app =
        some (.saved (some (.ok link)), rest, app)) :
    app.links.store.get? link.shortCode = some link ∧
      Text.isBlankText link.shortCode = false ∧
      t.app.links.store.lastId < link.id ∧
      link.id ≤ app.links.store.lastId := by
  rcases Dialogue.proceed?_store_cases hStep with
    ⟨_, hNone⟩ |
      ⟨limit, new, next, hRest, hFree, hEvent, hStore⟩
  · exact absurd rfl (hNone link)
  · have hAfter := hSound.followed a hMem
    rw [hRest] at hAfter
    have hDrew := ServiceCall.drew_of_save hAfter
    have hBlank := hSound.drawn a hMem new.shortCode hDrew
    have hLink :
        link =
          (t.app.links.store.insert new
            (c.surroundings.clock t.app.readings)).1 := by
      simpa using hEvent
    rw [hStore, hLink]
    refine ⟨LinkStore.get?_insert_self hFree, hBlank, ?_, ?_⟩
    · exact Int.lt_succ _
    · exact Int.le_refl _

/- A step of a call leaves the traffic sound. -/
theorem went
    (hSound : Sound c t)
    (hTicket : t.tickets[n]? = some a)
    (hStep :
      a.rest.proceed? c.surroundings t.app =
        some (e, rest, app)) :
    Sound c
      { t with
          app := app
          tickets := t.tickets.set n (a.went e rest) } := by
  have hMem := List.mem_of_getElem? hTicket
  have hExtends := App.Extends.proceed hStep
  -- Links that calls had saved are kept, by a later state.
  have hKept :
      ∀ b ∈ t.tickets, ∀ link, b.Saved link →
        app.links.store.get? link.shortCode = some link ∧
          Text.isBlankText link.shortCode = false ∧
          link.id ≤ app.links.store.lastId := by
    intro b hOld link hSaved
    rcases hSound.kept b hOld link hSaved with
      ⟨hFound, hBlank, hId⟩
    refine ⟨hExtends.found hFound, hBlank, ?_⟩
    exact Int.le_trans hId (Int.ofNat_le.mpr hExtends.lastId_le)
  -- A link that the call has saved now differs from them.
  have hNew :
      ∀ link, (a.went e rest).Saved link →
        a.Saved link ∨ e = .saved (some (.ok link)) := by
    intro link hSaved
    rcases List.mem_append.mp hSaved with hOld | hLast
    · exact Or.inl hOld
    · exact Or.inr (List.mem_singleton.mp hLast).symm
  have hApart :
      ∀ {m : Nat} {b : Ticket}, m ≠ n →
        t.tickets[m]? = some b →
        ∀ link other : Link, (a.went e rest).Saved link →
          b.Saved other → link.id ≠ other.id := by
    intro m b hOther hSecond link other hSaved hSavedToo
    rcases hNew link hSaved with hOld | rfl
    · exact hSound.apart hOther.symm hTicket hSecond link other
        hOld hSavedToo
    · have hLater := (hSound.of_saved hMem hStep).2.2.1
      have hEarlier :=
        (hSound.kept b (List.mem_of_getElem? hSecond) other
          hSavedToo).2.2
      omega
  constructor
  case fit => exact hSound.fit.proceed hStep
  case followed =>
    intro b hMember
    rcases List.mem_or_eq_of_mem_set hMember with hOld | rfl
    · exact hSound.followed b hOld
    · exact Dialogue.after_concat (hSound.followed a hMem)
        (Dialogue.feed?_of_proceed? hStep)
  case drawn =>
    intro b hMember code hDrew
    rcases List.mem_or_eq_of_mem_set hMember with hOld | rfl
    · exact hSound.drawn b hOld code hDrew
    · rcases List.mem_append.mp hDrew with hOld | hLast
      · exact hSound.drawn a hMem code hOld
      · rw [List.mem_singleton] at hLast
        subst hLast
        exact hSound.fit.of_drew hStep
  case kept =>
    intro b hMember link hSaved
    rcases List.mem_or_eq_of_mem_set hMember with hOld | rfl
    · exact hKept b hOld link hSaved
    · rcases hNew link hSaved with hOld | rfl
      · exact hKept a hMem link hOld
      · rcases hSound.of_saved hMem hStep with
          ⟨hFound, hBlank, _, hId⟩
        exact ⟨hFound, hBlank, hId⟩
  case apart =>
    intro m k x y hDiffer hFirst hSecond link other hSaved
      hOther
    rcases ticket_of_set hFirst with
      ⟨rfl, rfl⟩ | ⟨hFar, hOldFirst⟩
    · rcases ticket_of_set hSecond with
        ⟨rfl, rfl⟩ | ⟨hFar, hOldSecond⟩
      · exact absurd rfl hDiffer
      · exact hApart hFar hOldSecond link other hSaved hOther
    · rcases ticket_of_set hSecond with
        ⟨rfl, rfl⟩ | ⟨_, hOldSecond⟩
      · exact (hApart hFar hOldFirst other link hOther
          hSaved).symm
      · exact hSound.apart hDiffer hOldFirst hOldSecond link
          other hSaved hOther

end Went

/- Every step leaves the traffic sound. -/
theorem step
    (hSound : Sound c t)
    (hEffect : Effect c t t') : Sound c t' := by
  cases hEffect with
  | idle => exact hSound
  | began call => exact hSound.began call
  | went hTicket hStep => exact hSound.went hTicket hStep
  | worked hTickets hLinks hMinter hReadings =>
      constructor
      case fit =>
        exact ⟨by rw [hLinks]; exact hSound.fit.still_open,
          by rw [hLinks]; exact hSound.fit.faultless,
          by rw [hMinter]; exact hSound.fit.never_blank⟩
      case followed =>
        rw [hTickets]
        exact hSound.followed
      case drawn =>
        rw [hTickets]
        exact hSound.drawn
      case kept =>
        rw [hTickets, hLinks]
        exact hSound.kept
      case apart =>
        rw [hTickets]
        exact hSound.apart

end Sound

end Traffic

end UrlShortener

------------------------------------------------------------
-- Look-Ups Of A Link
------------------------------------------------------------

namespace UrlShortener

namespace Traffic

/-
  A link is found under its code by every resolution from a
  number on, and what those read off the clock are readings
  from a number on.
-/
structure Remembers
    (c : Conditions)
    (link : Link)
    (since first : Nat)
    (t : Traffic) : Prop where
  found :
    t.app.links.store.get? link.shortCode = some link
  readings_le : first ≤ t.app.readings
  answered :
    ∀ {n : Nat} {a : Ticket}, since ≤ n →
      t.tickets[n]? = some a →
        a.call = .resolve link.shortCode →
          ∀ result, .found (some result) ∈ a.events →
            result = .ok link
  timed :
    ∀ {n : Nat} {a : Ticket}, since ≤ n →
      t.tickets[n]? = some a →
        ∀ now, .clock now ∈ a.events →
          ∃ i, first ≤ i ∧ i < t.app.readings ∧
            now = c.surroundings.clock i

variable {c : Conditions} {t t' : Traffic}
variable {link : Link} {since first : Nat}

namespace Remembers

/- What a resolution is told by the store is the link. -/
theorem of_found
    (hRemembers : Remembers c link since first t)
    (hSound : Sound c t)
    {a : Ticket}
    (hMem : a ∈ t.tickets)
    (hCall : a.call = .resolve link.shortCode)
    {result : Except StoreFault Link}
    {rest : Dialogue ServiceAnswer}
    {app : App}
    (hStep :
      a.rest.proceed? c.surroundings t.app =
        some (.found (some result), rest, app)) :
    result = .ok link := by
  rcases hSound.fit.of_found hStep with
    ⟨limit, code, next, hRest, rfl⟩
  have hAfter := hSound.followed a hMem
  rw [hCall, hRest] at hAfter
  have hWithin :=
    ((Shortener.resolve_within c.policy link.shortCode).map
      ServiceAnswer.resolved).after hAfter
  have hCode : code = link.shortCode := hWithin.1
  rw [hCode, LinkStore.findOpen_eq_ok_iff]
  exact hRemembers.found

/- A step of a call leaves the link remembered. -/
theorem went
    (hRemembers : Remembers c link since first t)
    (hSound : Sound c t)
    {n : Nat}
    {a : Ticket}
    {e : Event}
    {rest : Dialogue ServiceAnswer}
    {app : App}
    (hTicket : t.tickets[n]? = some a)
    (hStep :
      a.rest.proceed? c.surroundings t.app =
        some (e, rest, app)) :
    Remembers c link since first
      { t with
          app := app
          tickets := t.tickets.set n (a.went e rest) } := by
  have hMem := List.mem_of_getElem? hTicket
  have hExtends := App.Extends.proceed hStep
  have hTimed :
      ∀ {m : Nat} {b : Ticket}, since ≤ m →
        t.tickets[m]? = some b →
          ∀ now, .clock now ∈ b.events →
            ∃ i, first ≤ i ∧ i < app.readings ∧
              now = c.surroundings.clock i := by
    intro m b hLater hOld now hNow
    rcases hRemembers.timed hLater hOld now hNow with
      ⟨i, hFirst, hRead, hClock⟩
    exact ⟨i, hFirst,
      Nat.lt_of_lt_of_le hRead hExtends.readings_le, hClock⟩
  constructor
  case found => exact hExtends.found hRemembers.found
  case readings_le =>
    exact Nat.le_trans hRemembers.readings_le
      hExtends.readings_le
  case answered =>
    intro m b hLater hMember hCall result hFound
    rcases ticket_of_set hMember with ⟨rfl, rfl⟩ | ⟨_, hOld⟩
    · rcases List.mem_append.mp hFound with hOld | hLast
      · exact hRemembers.answered hLater hTicket hCall result
          hOld
      · rw [List.mem_singleton] at hLast
        subst hLast
        exact hRemembers.of_found hSound hMem hCall hStep
    · exact hRemembers.answered hLater hOld hCall result hFound
  case timed =>
    intro m b hLater hMember now hNow
    rcases ticket_of_set hMember with ⟨rfl, rfl⟩ | ⟨_, hOld⟩
    · rcases List.mem_append.mp hNow with hOld | hLast
      · exact hTimed hLater hTicket now hOld
      · rw [List.mem_singleton] at hLast
        rcases (Dialogue.readings_of_proceed? hStep).2 now
            hLast.symm with ⟨hClock, hRead⟩
        exact ⟨t.app.readings, hRemembers.readings_le,
          hRead ▸ Nat.lt_succ_self _, hClock⟩
    · exact hTimed hLater hOld now hNow

/- Every step leaves the link remembered. -/
theorem step
    (hRemembers : Remembers c link since first t)
    (hSound : Sound c t)
    (hEffect : Effect c t t') :
    Remembers c link since first t' := by
  cases hEffect with
  | idle => exact hRemembers
  | began call =>
      constructor
      case found => exact hRemembers.found
      case readings_le => exact hRemembers.readings_le
      case answered =>
        intro n a hLater hTicket hCall result hFound
        rcases ticket_of_append hTicket with
          hOld | ⟨_, rfl⟩
        · exact hRemembers.answered hLater hOld hCall result
            hFound
        · cases hFound
      case timed =>
        intro n a hLater hTicket now hNow
        rcases ticket_of_append hTicket with
          hOld | ⟨_, rfl⟩
        · exact hRemembers.timed hLater hOld now hNow
        · cases hNow
  | went hTicket hStep =>
      exact hRemembers.went hSound hTicket hStep
  | worked hTickets hLinks hMinter hReadings =>
      constructor
      case found =>
        rw [hLinks]
        exact hRemembers.found
      case readings_le =>
        rw [hReadings]
        exact hRemembers.readings_le
      case answered =>
        rw [hTickets]
        exact hRemembers.answered
      case timed =>
        rw [hTickets, hReadings]
        exact hRemembers.timed

/- A resolution that is over has judged the link. -/
theorem judged
    (hRemembers : Remembers c link since first t)
    (hSound : Sound c t)
    {n : Nat}
    {a : Ticket}
    (hLater : since ≤ n)
    (hTicket : t.tickets[n]? = some a)
    (hCall : a.call = .resolve link.shortCode)
    {result : Except StoreFault Link}
    (hFound : .found (some result) ∈ a.events)
    {answer : ServiceAnswer}
    (hAnswered : a.Answered answer) :
    ∃ i, first ≤ i ∧ i < t.app.readings ∧
      .clock (c.surroundings.clock i) ∈ a.events ∧
      answer =
        .resolved
          (Shortener.judged link.shortCode link
            (c.surroundings.clock i)) := by
  have hLink :=
    hRemembers.answered hLater hTicket hCall result hFound
  rw [hLink] at hFound
  have hAfter :=
    hSound.followed a (List.mem_of_getElem? hTicket)
  rw [hCall, hAnswered] at hAfter
  rcases ServiceCall.judged_of_resolved hAfter hFound with
    ⟨now, hNow, hAnswer⟩
  rcases hRemembers.timed hLater hTicket now hNow with
    ⟨i, hFirst, hRead, rfl⟩
  exact ⟨i, hFirst, hRead, hNow, hAnswer⟩

end Remembers

end Traffic

end UrlShortener

------------------------------------------------------------
-- Phases Of A Code
------------------------------------------------------------

namespace UrlShortener

/- A time before one that has come is before every later one. -/
theorem Timestamp.before_of_before
    {s t u : Timestamp}
    (hBefore : s.before t = true)
    (hLater : u.before t = false) : s.before u = true := by
  simp only [Timestamp.before, Bool.or_eq_true,
    Bool.and_eq_true, Bool.or_eq_false_iff,
    Bool.and_eq_false_iff, decide_eq_true_eq,
    decide_eq_false_iff_not, beq_iff_eq, beq_eq_false_iff_ne]
    at hBefore hLater ⊢
  omega

/- A link that has expired stays expired. -/
theorem Link.expiredAt_later
    {link : Link}
    {now later : Timestamp}
    (hExpired : link.expiredAt now = true)
    (hLater : later.before now = false) :
    link.expiredAt later = true := by
  unfold expiredAt at hExpired ⊢
  cases hExpiry : link.expireAt with
  | none =>
      rw [hExpiry] at hExpired
      cases hExpired
  | some expiry =>
      rw [hExpiry] at hExpired
      exact Timestamp.before_of_before hExpired hLater

namespace CodePhase

end CodePhase

namespace App

end App

end UrlShortener

------------------------------------------------------------
-- Permanence
------------------------------------------------------------

namespace UrlShortener

namespace Traffic

variable {c : Conditions} {t : Traffic}

/- Every run leads to a later state of the service. -/
theorem extends_run
    (t : Traffic)
    (moves : List TrafficMove) :
    App.Extends t.app (t.run c moves).app := by
  refine run_induction
    (P := fun t' => App.Extends t.app t'.app)
    ?_ (App.Extends.refl t.app) moves
  intro t₁ t₂ hExtends hEffect
  cases hEffect with
  | idle => exact hExtends
  | began call => exact hExtends
  | went hTicket hStep =>
      exact hExtends.trans (App.Extends.proceed hStep)
  | worked hTickets hLinks hMinter hReadings =>
      refine hExtends.trans ⟨?_, ?_, ?_⟩
      · intro code link hFound
        rw [hLinks]
        exact hFound
      · exact Nat.le_of_eq
          (congrArg (fun b => b.store.lastId) hLinks.symm)
      · exact Nat.le_of_eq hReadings.symm

/- A service with one code to give, and a request for it. -/
def sampleApp : App := .init (.listed [.given "abc"]) 1

def sampleRequest : LinkRequest :=
  { longUrl := "http://[::]"
    originalUrl := none
    userId := none
    expireAt := none }

def sampleLink : Link :=
  { id := 1
    shortCode := "abc"
    longUrl := "http://[::]"
    originalUrl := "http://[::]"
    userId := none
    createdAt := ⟨0, 1, 0⟩
    expireAt := some ⟨30, 0, 0⟩ }

def sampleCreation : List TrafficMove :=
  .begin (.create sampleRequest) :: List.replicate 4 (.go 0)

end Traffic

end UrlShortener
