import UrlShortener.Service.Shortener

/-
  The course of a dialogue: the events that it met and where
  they led it. What a dialogue asks for on all its courses
  is a property of the dialogue as a tree; what it asked for
  on one course is read off the events.

  Key definitions include:
    * `Event`
    * `Dialogue.feed?`
    * `Dialogue.after`
    * `Dialogue.Closes`
    * `Ask`
    * `Dialogue.Within`

  Main declarations:
    * `Dialogue.Closes.after`
    * `Dialogue.closes_map`
    * `Dialogue.Within.after`
    * `Shortener.create_after`
    * `Shortener.resolve_after_found`
-/

------------------------------------------------------------
-- Events
------------------------------------------------------------

namespace UrlShortener

/- What a dialogue is told when it made a call. -/
inductive Event where
| clock (now : Timestamp)
| drew (result : Except MintFault String)
| saved (result : Option (Except StoreFault Link))
| found (result : Option (Except StoreFault Link))
| counted (result : Option (Except CounterFault Nat))
| probed
    (ofStore : Option (Except StoreFault Unit))
    (ofCounter : Option (Except CounterFault Unit))
| offered (taken : Bool)
| places (free : Option Nat)
| noted
deriving Repr

namespace Dialogue

variable {α β : Type}

/- Go on with an event, if it answers the call. -/
def feed? : Dialogue α → Event → Option (Dialogue α)
| .readClock next, .clock now => some (next now)
| .draw _ next, .drew result => some (next result)
| .save _ _ next, .saved result => some (next result)
| .find _ _ next, .found result => some (next result)
| .count _ _ next, .counted result => some (next result)
| .probe _ next, .probed ofStore ofCounter =>
    some (next ofStore ofCounter)
| .visit _ next, .offered taken => some (next taken)
| .places next, .places free => some (next free)
| .note _ next, .noted => some next
| _, _ => none

/- Where events lead a dialogue, if they answer its calls. -/
def after (d : Dialogue α) : List Event → Option (Dialogue α)
| [] => some d
| e :: events =>
    match d.feed? e with
    | some d => d.after events
    | none => none

/- No event answers a dialogue that is over. -/
@[simp] theorem feed?_done
    (result : α)
    (e : Event) :
    (Dialogue.done result).feed? e = none := by
  cases e <;> rfl

/- A course that is not empty begins with an event. -/
theorem after_cons_eq_some_iff
    {d rest : Dialogue α}
    {e : Event}
    {events : List Event} :
    d.after (e :: events) = some rest ↔
      ∃ d', d.feed? e = some d' ∧
        d'.after events = some rest := by
  simp only [after]
  cases d.feed? e with
  | none => simp
  | some d' => simp

/- A dialogue that is over stays over. -/
theorem after_done
    {result : α}
    {events : List Event}
    {rest : Dialogue α}
    (hAfter :
      (Dialogue.done result).after events = some rest) :
    rest = .done result := by
  cases events with
  | nil => exact (Option.some.inj hAfter).symm
  | cons e events => simp [after] at hAfter

theorem after_done_eq_nil
    {result : α}
    {events : List Event}
    {rest : Dialogue α}
    (hAfter :
      (Dialogue.done result).after events = some rest) :
    events = [] := by
  cases events with
  | nil => rfl
  | cons e events => simp [after] at hAfter

/- A note is taken before the dialogue goes on. -/
theorem after_note
    {metric : Metric}
    {next rest : Dialogue α}
    {events : List Event}
    (hAfter : (note metric next).after events = some rest) :
    rest = .note metric next ∨
      ∃ later, events = .noted :: later ∧
        next.after later = some rest := by
  cases events with
  | nil => exact Or.inl (Option.some.inj hAfter).symm
  | cons e later =>
      rcases after_cons_eq_some_iff.mp hAfter with
        ⟨d, hFeed, hRest⟩
      cases e <;> cases hFeed
      exact Or.inr ⟨later, rfl, hRest⟩

/- One more event at the end of a course. -/
theorem after_concat
    {d rest rest' : Dialogue α}
    {events : List Event}
    {e : Event}
    (hAfter : d.after events = some rest)
    (hFeed : rest.feed? e = some rest') :
    d.after (events ++ [e]) = some rest' := by
  induction events generalizing d with
  | nil =>
      obtain rfl := Option.some.inj hAfter
      exact after_cons_eq_some_iff.mpr ⟨rest', hFeed, rfl⟩
  | cons first events ih =>
      rcases after_cons_eq_some_iff.mp hAfter with
        ⟨next, hFirst, hRest⟩
      exact after_cons_eq_some_iff.mpr
        ⟨next, hFirst, ih hRest⟩

/- What every event keeps of a dialogue, every course keeps. -/
theorem after_induction
    {P : List Event → Dialogue α → Prop}
    (hFeed :
      ∀ {before d e next}, P before d →
        d.feed? e = some next → P (before ++ [e]) next)
    {d rest : Dialogue α}
    {events : List Event}
    (before : List Event)
    (hStart : P before d)
    (hAfter : d.after events = some rest) :
    P (before ++ events) rest := by
  induction events generalizing d before with
  | nil =>
      obtain rfl := Option.some.inj hAfter
      rwa [List.append_nil]
  | cons e events ih =>
      rcases after_cons_eq_some_iff.mp hAfter with
        ⟨next, hNext, hRest⟩
      have hEnd := ih _ (hFeed hStart hNext) hRest
      rwa [List.append_assoc, List.singleton_append] at hEnd

/- An event does not see what becomes of the result. -/
theorem feed?_map
    (f : α → β)
    (d : Dialogue α)
    (e : Event) :
    (d.map f).feed? e = (d.feed? e).map (Dialogue.map f) := by
  cases d with
  | done result => simp [map, bind]
  | readClock next => cases e <;> rfl
  | draw length next => cases e <;> rfl
  | save limit new next => cases e <;> rfl
  | find limit code next => cases e <;> rfl
  | count limit code next => cases e <;> rfl
  | probe limit next => cases e <;> rfl
  | visit code next => cases e <;> rfl
  | places next => cases e <;> rfl
  | note metric next => cases e <;> rfl

/- Nor does a course. -/
theorem after_map
    (f : α → β)
    (d : Dialogue α)
    (events : List Event) :
    (d.map f).after events =
      (d.after events).map (Dialogue.map f) := by
  induction events generalizing d with
  | nil => rfl
  | cons e events ih =>
      simp only [after, feed?_map]
      cases d.feed? e with
      | none => rfl
      | some next => exact ih next

end Dialogue

end UrlShortener

------------------------------------------------------------
-- How Courses Close
------------------------------------------------------------

namespace UrlShortener

namespace Dialogue

variable {α β : Type}

/-
  Whatever happens, the result of a dialogue stands in a
  relation to all events, those before it included.
-/
def Closes
    (Q : List Event → α → Prop) :
    Dialogue α → List Event → Prop
| .done result, events => Q events result
| .readClock next, events => ∀ t,
    (next t).Closes Q (events ++ [.clock t])
| .draw _ next, events => ∀ r,
    (next r).Closes Q (events ++ [.drew r])
| .save _ _ next, events => ∀ r,
    (next r).Closes Q (events ++ [.saved r])
| .find _ _ next, events => ∀ r,
    (next r).Closes Q (events ++ [.found r])
| .count _ _ next, events => ∀ r,
    (next r).Closes Q (events ++ [.counted r])
| .probe _ next, events => ∀ r s,
    (next r s).Closes Q (events ++ [.probed r s])
| .visit _ next, events => ∀ taken,
    (next taken).Closes Q (events ++ [.offered taken])
| .places next, events => ∀ free,
    (next free).Closes Q (events ++ [.places free])
| .note _ next, events => next.Closes Q (events ++ [.noted])

variable {Q : List Event → α → Prop} {R : List Event → β → Prop}
variable {d next : Dialogue α} {e : Event}
variable {before events : List Event} {result : α}

namespace Closes

theorem feed
    (hCloses : d.Closes Q before)
    (hFeed : d.feed? e = some next) :
    next.Closes Q (before ++ [e]) := by
  cases d with
  | done result => simp at hFeed
  | readClock next =>
      cases e <;> cases hFeed
      exact hCloses _
  | draw length next =>
      cases e <;> cases hFeed
      exact hCloses _
  | save limit new next =>
      cases e <;> cases hFeed
      exact hCloses _
  | find limit code next =>
      cases e <;> cases hFeed
      exact hCloses _
  | count limit code next =>
      cases e <;> cases hFeed
      exact hCloses _
  | probe limit next =>
      cases e <;> cases hFeed
      exact hCloses _ _
  | visit code next =>
      cases e <;> cases hFeed
      exact hCloses _
  | places next =>
      cases e <;> cases hFeed
      exact hCloses _
  | note metric next =>
      cases e <;> cases hFeed
      exact hCloses

/- A course that is over has closed as it should. -/
theorem after
    (hCloses : d.Closes Q before)
    (hAfter : d.after events = some (.done result)) :
    Q (before ++ events) result :=
  after_induction (P := fun before d => d.Closes Q before)
    feed before hCloses hAfter

end Closes

/- What comes of all courses comes of those below an event. -/
theorem after_below
    (hAfter :
      ∀ events result, d.after events = some (.done result) →
        Q (before ++ events) result)
    (hFeed : d.feed? e = some next) :
    ∀ events result, next.after events = some (.done result) →
      Q (before ++ [e] ++ events) result := by
  intro events result hRest
  rw [List.append_assoc]
  exact hAfter (e :: events) result
    (after_cons_eq_some_iff.mpr ⟨next, hFeed, hRest⟩)

/- A dialogue closes as all of its courses do. -/
theorem closes_of_after
    (hAfter :
      ∀ events result, d.after events = some (.done result) →
        Q (before ++ events) result) :
    d.Closes Q before := by
  induction d generalizing before with
  | done result =>
      have hOver := hAfter [] result rfl
      rwa [List.append_nil] at hOver
  | readClock next ih =>
      exact fun t => ih t (after_below hAfter rfl)
  | draw length next ih =>
      exact fun r => ih r (after_below hAfter rfl)
  | save limit new next ih =>
      exact fun r => ih r (after_below hAfter rfl)
  | find limit code next ih =>
      exact fun r => ih r (after_below hAfter rfl)
  | count limit code next ih =>
      exact fun r => ih r (after_below hAfter rfl)
  | probe limit next ih =>
      exact fun r s => ih r s (after_below hAfter rfl)
  | visit code next ih =>
      exact fun taken => ih taken (after_below hAfter rfl)
  | places next ih =>
      exact fun free => ih free (after_below hAfter rfl)
  | note metric next ih => exact ih (after_below hAfter rfl)

/- What is made of the results of all courses is made of it. -/
theorem closes_map
    {f : α → β}
    (hResult :
      ∀ events a, d.after events = some (.done a) →
        R (before ++ events) (f a)) :
    (d.map f).Closes R before := by
  apply closes_of_after
  intro events b hAfter
  rw [after_map, Option.map_eq_some_iff] at hAfter
  rcases hAfter with ⟨rest, hRest, hEnd⟩
  cases rest with
  | done a =>
      cases hEnd
      exact hResult events a hRest
  | _ => cases hEnd

theorem Closes.map
    {f : α → β}
    (hCloses : d.Closes Q before)
    (hResult :
      ∀ events a, Q events a → R events (f a)) :
    (d.map f).Closes R before :=
  closes_map fun _ _ hAfter => hResult _ _ (hCloses.after hAfter)

end Dialogue

end UrlShortener

------------------------------------------------------------
-- What A Dialogue May Ask For
------------------------------------------------------------

namespace UrlShortener

/- What a dialogue asks for with a call. -/
inductive Ask where
| clock
| code
| save (new : NewLink)
| find (code : String)
| count (code : String)
| probe
| visit (code : String)
| places
| note (metric : Metric)
deriving DecidableEq, Repr

namespace Dialogue

variable {α β : Type} {P Q : Ask → Prop}

/- Whatever happens, a dialogue asks for nothing else. -/
def Within (P : Ask → Prop) : Dialogue α → Prop
| .done _ => True
| .readClock next => P .clock ∧ ∀ t, (next t).Within P
| .draw _ next => P .code ∧ ∀ r, (next r).Within P
| .save _ new next => P (.save new) ∧ ∀ r, (next r).Within P
| .find _ code next => P (.find code) ∧ ∀ r, (next r).Within P
| .count _ code next =>
    P (.count code) ∧ ∀ r, (next r).Within P
| .probe _ next => P .probe ∧ ∀ r s, (next r s).Within P
| .visit code next =>
    P (.visit code) ∧ ∀ taken, (next taken).Within P
| .places next => P .places ∧ ∀ free, (next free).Within P
| .note metric next => P (.note metric) ∧ next.Within P

namespace Within

/- What is left after an event asks for nothing else either. -/
theorem feed
    {d next : Dialogue α}
    {e : Event}
    (hWithin : d.Within P)
    (hFeed : d.feed? e = some next) : next.Within P := by
  cases d with
  | done result => simp at hFeed
  | readClock next =>
      cases e <;> cases hFeed
      exact hWithin.2 _
  | draw length next =>
      cases e <;> cases hFeed
      exact hWithin.2 _
  | save limit new next =>
      cases e <;> cases hFeed
      exact hWithin.2 _
  | find limit code next =>
      cases e <;> cases hFeed
      exact hWithin.2 _
  | count limit code next =>
      cases e <;> cases hFeed
      exact hWithin.2 _
  | probe limit next =>
      cases e <;> cases hFeed
      exact hWithin.2 _ _
  | visit code next =>
      cases e <;> cases hFeed
      exact hWithin.2 _
  | places next =>
      cases e <;> cases hFeed
      exact hWithin.2 _
  | note metric next =>
      cases e <;> cases hFeed
      exact hWithin.2

/- Nor does what is left after a course. -/
theorem after
    {d rest : Dialogue α}
    {events : List Event}
    (hWithin : d.Within P)
    (hAfter : d.after events = some rest) :
    rest.Within P :=
  after_induction (P := fun _ d => d.Within P)
    feed [] hWithin hAfter

/- Going on with the result asks for what both ask for. -/
theorem bind
    {d : Dialogue α}
    {f : α → Dialogue β}
    (hWithin : d.Within P)
    (hNext : ∀ a, (f a).Within P) : (d.bind f).Within P := by
  induction d with
  | done result => exact hNext result
  | readClock next ih =>
      exact ⟨hWithin.1, fun t => ih t (hWithin.2 t)⟩
  | draw length next ih =>
      exact ⟨hWithin.1, fun r => ih r (hWithin.2 r)⟩
  | save limit new next ih =>
      exact ⟨hWithin.1, fun r => ih r (hWithin.2 r)⟩
  | find limit code next ih =>
      exact ⟨hWithin.1, fun r => ih r (hWithin.2 r)⟩
  | count limit code next ih =>
      exact ⟨hWithin.1, fun r => ih r (hWithin.2 r)⟩
  | probe limit next ih =>
      exact ⟨hWithin.1, fun r s => ih r s (hWithin.2 r s)⟩
  | visit code next ih =>
      exact ⟨hWithin.1, fun taken => ih taken (hWithin.2 taken)⟩
  | places next ih =>
      exact ⟨hWithin.1, fun free => ih free (hWithin.2 free)⟩
  | note metric next ih => exact ⟨hWithin.1, ih hWithin.2⟩

/- The result of a dialogue does not matter to what it asks. -/
theorem map
    {d : Dialogue α}
    (hWithin : d.Within P)
    (f : α → β) : (d.map f).Within P :=
  hWithin.bind fun _ => True.intro

/- What asks for little asks for no more than for much. -/
theorem mono
    {d : Dialogue α}
    (hWithin : d.Within P)
    (hMore : ∀ a, P a → Q a) : d.Within Q := by
  induction d with
  | done result => exact True.intro
  | readClock next ih =>
      exact ⟨hMore _ hWithin.1, fun t => ih t (hWithin.2 t)⟩
  | draw length next ih =>
      exact ⟨hMore _ hWithin.1, fun r => ih r (hWithin.2 r)⟩
  | save limit new next ih =>
      exact ⟨hMore _ hWithin.1, fun r => ih r (hWithin.2 r)⟩
  | find limit code next ih =>
      exact ⟨hMore _ hWithin.1, fun r => ih r (hWithin.2 r)⟩
  | count limit code next ih =>
      exact ⟨hMore _ hWithin.1, fun r => ih r (hWithin.2 r)⟩
  | probe limit next ih =>
      exact ⟨hMore _ hWithin.1,
        fun r s => ih r s (hWithin.2 r s)⟩
  | visit code next ih =>
      exact ⟨hMore _ hWithin.1,
        fun taken => ih taken (hWithin.2 taken)⟩
  | places next ih =>
      exact ⟨hMore _ hWithin.1,
        fun free => ih free (hWithin.2 free)⟩
  | note metric next ih =>
      exact ⟨hMore _ hWithin.1, ih hWithin.2⟩

end Within

end Dialogue

end UrlShortener

------------------------------------------------------------
-- The Course Of A Creation
------------------------------------------------------------

namespace UrlShortener

open Dialogue (after_cons_eq_some_iff after_done after_note)

namespace Shortener

/-
  What has happened when a creation has come to a point: the
  code of a link about to be saved was drawn, and a link that
  is the result was saved.
-/
structure Honest
    (events : List Event)
    (rest : Dialogue (Except Failure Link)) : Prop where
  of_save :
    ∀ limit new next, rest = .save limit new next →
      .drew (.ok new.shortCode) ∈ events
  of_done :
    ∀ link, rest = .done (.ok link) →
      .saved (some (.ok link)) ∈ events

namespace Honest

variable {events : List Event}
variable {rest : Dialogue (Except Failure Link)}

/- A failure promises nothing. -/
theorem of_failure
    {fault : Failure}
    (hRest : rest = .done (.error fault)) :
    Honest events rest := by
  rw [hRest]
  exact ⟨nofun, nofun⟩

/- Events that came before do no harm. -/
theorem cons
    (hHonest : Honest events rest)
    (e : Event) : Honest (e :: events) rest where
  of_save := by
    intro limit new next hSave
    exact List.mem_cons_of_mem e
      (hHonest.of_save limit new next hSave)
  of_done := by
    intro link hDone
    exact List.mem_cons_of_mem e (hHonest.of_done link hDone)

end Honest

variable {events : List Event}
variable {rest again : Dialogue (Except Failure Link)}

/- Going on after a save is honest if drawing again is. -/
theorem afterSave_after
    (policy : Policy)
    {reply : Option (Except StoreFault Link)}
    (hAgain :
      ∀ {events rest}, again.after events = some rest →
        Honest events rest)
    (hAfter :
      (afterSave policy again reply).after events =
        some rest) :
    Honest (.saved reply :: events) rest := by
  cases reply with
  | none => exact .of_failure (after_done hAfter)
  | some result =>
      cases result with
      | ok link =>
          rcases after_note hAfter with
            rfl | ⟨later, rfl, hRest⟩
          · exact ⟨nofun, nofun⟩
          · obtain rfl := after_done hRest
            refine ⟨nofun, ?_⟩
            intro other hDone
            cases hDone
            exact List.mem_cons_self
      | error fault =>
          cases fault with
          | conflict code =>
              rcases after_note hAfter with
                rfl | ⟨later, rfl, hRest⟩
              · exact ⟨nofun, nofun⟩
              · exact ((hAgain hRest).cons _).cons _
          | _ => exact .of_failure (after_done hAfter)

/- So is saving a link whose code was just drawn. -/
theorem save_after
    (policy : Policy)
    {new : NewLink}
    (hAgain :
      ∀ {events rest}, again.after events = some rest →
        Honest events rest)
    (hAfter :
      (Dialogue.save policy.storeTimeout new
        (afterSave policy again)).after events = some rest) :
    Honest (.drew (.ok new.shortCode) :: events) rest := by
  cases events with
  | nil =>
      obtain rfl := Option.some.inj hAfter
      refine ⟨?_, nofun⟩
      intro limit other next hSave
      cases hSave
      exact List.mem_cons_self
  | cons e events =>
      rcases after_cons_eq_some_iff.mp hAfter with
        ⟨next, hFeed, hRest⟩
      rcases e with _ | _ | reply | _ <;> cases hFeed
      exact (afterSave_after policy hAgain hRest).cons _

/- Drawing codes is honest on every course. -/
theorem attempt_after
    (policy : Policy)
    {draft : String → NewLink}
    (hDraft : ∀ code, (draft code).shortCode = code)
    {left : Nat}
    (hAfter :
      (attempt policy draft left).after events = some rest) :
    Honest events rest := by
  induction left generalizing events rest with
  | zero =>
      rcases after_note hAfter with rfl | ⟨later, rfl, hRest⟩
      · exact ⟨nofun, nofun⟩
      · exact .of_failure (after_done hRest)
  | succ left ih =>
      cases events with
      | nil =>
          obtain rfl := Option.some.inj hAfter
          exact ⟨nofun, nofun⟩
      | cons e events =>
          rcases after_cons_eq_some_iff.mp hAfter with
            ⟨next, hFeed, hRest⟩
          rcases e with _ | drawn | _ <;> cases hFeed
          rcases drawn with fault | code
          · exact .of_failure (after_done hRest)
          · dsimp only at hRest
            by_cases hReserved : Code.isReserved code = true
            · rw [if_pos hReserved] at hRest
              exact (ih hRest).cons _
            · rw [if_neg hReserved] at hRest
              have hHonest := save_after policy ih hRest
              rw [hDraft] at hHonest
              exact hHonest

/- Finding an expiry first does no harm. -/
theorem withExpiry_after
    (policy : Policy)
    (given : Option Timestamp)
    {next :
      Option Timestamp → Dialogue (Except Failure Link)}
    (hNext :
      ∀ {expireAt events rest},
        (next expireAt).after events = some rest →
          Honest events rest)
    (hAfter :
      (withExpiry policy given next).after events =
        some rest) :
    Honest events rest := by
  unfold withExpiry at hAfter
  split at hAfter
  · exact hNext hAfter
  · exact hNext hAfter
  · rename_i ttl _ _
    cases events with
    | nil =>
        obtain rfl := Option.some.inj hAfter
        exact ⟨nofun, nofun⟩
    | cons e events =>
        rcases after_cons_eq_some_iff.mp hAfter with
          ⟨next, hFeed, hRest⟩
        rcases e with now | _ <;> cases hFeed
        dsimp only at hRest
        split at hRest
        · exact (hNext hRest).cons _
        · exact .of_failure (after_done hRest)

/- A creation is honest on every course. -/
theorem create_after
    (policy : Policy)
    (request : LinkRequest)
    (hAfter :
      (create policy request).after events = some rest) :
    Honest events rest := by
  unfold create at hAfter
  split at hAfter
  · exact .of_failure (after_done hAfter)
  · refine withExpiry_after policy request.expireAt ?_ hAfter
    intro expireAt events rest hAfter
    exact attempt_after policy (fun _ => rfl) hAfter

end Shortener

end UrlShortener

------------------------------------------------------------
-- The Course Of A Resolution
------------------------------------------------------------

namespace UrlShortener

open Dialogue (after_cons_eq_some_iff after_done after_note
  after_done_eq_nil)

namespace Shortener

/- A resolution looks up just the code that it is given. -/
def LooksUp (code : String) : Ask → Prop
| .find other => other = code
| .save _ => False
| _ => True

theorem resolve_within
    (policy : Policy)
    (code : String) :
    (resolve policy code).Within (LooksUp code) := by
  unfold resolve
  split
  · exact True.intro
  · refine ⟨rfl, ?_⟩
    intro reply
    dsimp only
    split
    · exact True.intro
    · exact True.intro
    · exact True.intro
    · refine ⟨True.intro, ?_⟩
      intro now
      dsimp only
      split
      · exact True.intro
      · refine ⟨True.intro, True.intro, ?_⟩
        intro taken
        dsimp only
        split
        · exact True.intro
        · exact ⟨True.intro, True.intro⟩

/- Reading a count asks for just that. -/
theorem stats_within
    (policy : Policy)
    (code : String) :
    (stats policy code).Within (· = .count code) := by
  refine ⟨rfl, ?_⟩
  intro reply
  dsimp only
  split
  · exact True.intro
  · exact True.intro
  · exact True.intro

/- The answer to a link that was found, at a time. -/
def judged
    (code : String)
    (link : Link)
    (now : Timestamp) : Except Failure Link :=
  if link.expiredAt now then .error (expiredCode code)
  else .ok link

variable {events : List Event}

/- Queueing a visit does not change a result. -/
theorem schedule_after_done
    {code : String}
    {result outcome : Except Failure Link}
    (hAfter :
      (schedule code result).after events =
        some (.done outcome)) :
    outcome = result ∧ ∀ reply, .found reply ∉ events := by
  cases events with
  | nil => cases hAfter
  | cons e events =>
      rcases after_cons_eq_some_iff.mp hAfter with
        ⟨next, hFeed, hRest⟩
      rcases e with _ | _ | _ | _ | _ | _ | taken | _ | _
        <;> cases hFeed
      cases taken with
      | true =>
          have hDone := after_done hRest
          have hNil := after_done_eq_nil hRest
          cases hDone
          simp [hNil]
      | false =>
          rcases after_note hRest with
            hNote | ⟨later, rfl, hLater⟩
          · cases hNote
          · have hDone := after_done hLater
            have hNil := after_done_eq_nil hLater
            cases hDone
            simp [hNil]

/- A link that was found is judged at a time off the clock. -/
theorem found_after_done
    {code : String}
    {link : Link}
    {outcome : Except Failure Link}
    (hAfter :
      (afterFind code link).after events =
        some (.done outcome)) :
    (∃ now, .clock now ∈ events ∧
      outcome = judged code link now) ∧
      ∀ reply, .found reply ∉ events := by
  cases events with
  | nil => cases hAfter
  | cons e events =>
      rcases after_cons_eq_some_iff.mp hAfter with
        ⟨next, hFeed, hRest⟩
      rcases e with now | _ <;> cases hFeed
      dsimp only at hRest
      by_cases hExpired : link.expiredAt now = true
      · rw [if_pos hExpired] at hRest
        have hDone := after_done hRest
        have hNil := after_done_eq_nil hRest
        cases hDone
        refine ⟨⟨now, List.mem_cons_self, ?_⟩, by simp [hNil]⟩
        rw [judged, if_pos hExpired]
      · rw [if_neg hExpired] at hRest
        rcases after_note hRest with
          hNote | ⟨later, rfl, hLater⟩
        · cases hNote
        · have hScheduled := schedule_after_done hLater
          refine ⟨⟨now, List.mem_cons_self, ?_⟩, ?_⟩
          · rw [judged, if_neg hExpired, hScheduled.1]
          · simpa using hScheduled.2

/-
  A resolution that is over and has found a link judged it
  at a time that it read off the clock.
-/
theorem resolve_after_done
    (policy : Policy)
    {code : String}
    {link : Link}
    {outcome : Except Failure Link}
    (hAfter :
      (resolve policy code).after events =
        some (.done outcome))
    (hFound : .found (some (.ok link)) ∈ events) :
    ∃ now, .clock now ∈ events ∧
      outcome = judged code link now := by
  unfold resolve at hAfter
  split at hAfter
  · rw [after_done_eq_nil hAfter] at hFound
    cases hFound
  · cases events with
    | nil => cases hAfter
    | cons e events =>
        rcases after_cons_eq_some_iff.mp hAfter with
          ⟨next, hFeed, hRest⟩
        rcases e with _ | _ | _ | reply | _ <;> cases hFeed
        dsimp only at hRest
        split at hRest
        · simp [after_done_eq_nil hRest] at hFound
        · simp [after_done_eq_nil hRest] at hFound
        · simp [after_done_eq_nil hRest] at hFound
        · rename_i found
          rcases found_after_done hRest with
            ⟨⟨now, hNow, hOutcome⟩, hNever⟩
          have hSame : link = found := by
            simpa [hNever] using hFound
          rw [hSame]
          exact ⟨now, List.mem_cons_of_mem _ hNow, hOutcome⟩

end Shortener

end UrlShortener
