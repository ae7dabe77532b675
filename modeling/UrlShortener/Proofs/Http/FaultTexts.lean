import UrlShortener.Proofs.Http.LookUps

/-
  The texts of faults never show. What a backend says about
  its fault, which code it takes to be taken and how long it
  says that it waited is for the log: whoever creates links,
  follows them or asks for counts is answered the same
  whatever the texts are. A fault that ends a request ends
  it with one and the same answer.

  A dialogue is deaf when it goes on in the same way
  whatever the texts are. This is a property of the dialogue
  as a tree, so it holds for backends that answer as they
  like; the backends of the service are a special case.

  Key definitions include:
    * `Event.mute`
    * `Event.Breaks`
    * `Dialogue.Deaf`
    * `App.mute`

  Main declarations:
    * `Dialogue.Deaf.after_mute`
    * `Dialogue.Deaf.run_mute`
    * `Site.answer_deaf`
    * `Site.fault_texts_never_show`
-/

------------------------------------------------------------
-- Faults Without Texts
------------------------------------------------------------

namespace UrlShortener

def StoreFault.mute : StoreFault → StoreFault
| .conflict _ => .conflict ""
| .notFound => .notFound
| .closed => .closed
| .timeout _ => .timeout ⟨0⟩
| .backend _ => .backend ""

def CounterFault.mute : CounterFault → CounterFault
| .timeout _ => .timeout ⟨0⟩
| .backend _ => .backend ""

def MintFault.mute : MintFault → MintFault
| .randomSource _ => .randomSource ""
| .zeroLength => .zeroLength

/- What a backend answered, without the text of a fault. -/
def StoreFault.hush {α : Type} :
    Option (Except StoreFault α) →
    Option (Except StoreFault α) :=
  Option.map (Except.mapError mute)

def CounterFault.hush {α : Type} :
    Option (Except CounterFault α) →
    Option (Except CounterFault α) :=
  Option.map (Except.mapError mute)

namespace Event

/- An event without the texts of faults. -/
def mute : Event → Event
| .drew result => .drew (result.mapError MintFault.mute)
| .saved result => .saved (StoreFault.hush result)
| .found result => .found (StoreFault.hush result)
| .counted result => .counted (CounterFault.hush result)
| .probed ofStore ofCounter =>
    .probed (StoreFault.hush ofStore)
      (CounterFault.hush ofCounter)
| e => e

/-
  A fault of a backend that ends a request, or an answer of
  a backend that did not come in time. A code that is taken
  costs a draw, and a code without a link is no fault.
-/
def Breaks : Event → Prop
| .drew (.error _) => True
| .saved none => True
| .saved (some (.error (.conflict _))) => False
| .saved (some (.error .notFound)) => False
| .saved (some (.error _)) => True
| .found none => True
| .found (some (.error .notFound)) => False
| .found (some (.error _)) => True
| .counted none => True
| .counted (some (.error _)) => True
| _ => False

end Event

end UrlShortener

------------------------------------------------------------
-- Deaf Dialogues
------------------------------------------------------------

namespace UrlShortener

namespace Dialogue

variable {α β : Type}

/-
  An answer is met without regard to the text of its fault,
  and one that breaks the dialogue ends it with a given
  result.
-/
structure Unmoved
    {ρ : Type}
    (broken : α)
    (hush : ρ → ρ)
    (event : ρ → Event)
    (next : ρ → Dialogue α)
    (r : ρ) : Prop where
  same : next (hush r) = next r
  breaks : (event r).Breaks → next r = .done broken

/-
  A dialogue that is unmoved by all answers, and to which a
  code that is taken is no end.
-/
def Deaf (broken : α) : Dialogue α → Prop
| .done _ => True
| .readClock next => ∀ t, (next t).Deaf broken
| .draw _ next => ∀ r,
    Unmoved broken (Except.mapError MintFault.mute) .drew
        next r ∧
      (next r).Deaf broken
| .save _ _ next =>
    (∀ r,
      Unmoved broken StoreFault.hush .saved next r ∧
        (next r).Deaf broken) ∧
      ∀ code, ∃ again,
        next (some (.error (.conflict code))) =
          .note .collisions again
| .find _ _ next => ∀ r,
    Unmoved broken StoreFault.hush .found next r ∧
      (next r).Deaf broken
| .count _ _ next => ∀ r,
    Unmoved broken CounterFault.hush .counted next r ∧
      (next r).Deaf broken
| .probe _ _ => False
| .visit _ next => ∀ taken, (next taken).Deaf broken
| .places _ => False
| .note _ next => next.Deaf broken

namespace Unmoved

variable {ρ : Type} {broken : α} {hush : ρ → ρ}
variable {event : ρ → Event} {next : ρ → Dialogue α} {r : ρ}

/- A fault that breaks the dialogue, with a text or without. -/
theorem of_broken
    (hBroken : next r = .done broken)
    (hHushed : next (hush r) = .done broken) :
    Unmoved broken hush event next r where
  same := hHushed.trans hBroken.symm
  breaks := fun _ => hBroken

/- What becomes of the result does not matter. -/
theorem map
    (f : α → β)
    (hUnmoved : Unmoved broken hush event next r) :
    Unmoved (f broken) hush event
      (fun r => (next r).map f) r where
  same := congrArg (Dialogue.map f) hUnmoved.same
  breaks := fun hBreaks =>
    congrArg (Dialogue.map f) (hUnmoved.breaks hBreaks)

end Unmoved

namespace Deaf

variable {broken : α} {d rest next : Dialogue α} {e : Event}
variable {events events' : List Event}

/- The text of a fault does not matter to what comes next. -/
theorem feed_mute
    (hDeaf : d.Deaf broken)
    (e : Event) : d.feed? e.mute = d.feed? e := by
  cases d with
  | done result => rw [feed?_done, feed?_done]
  | readClock next => cases e <;> rfl
  | draw length next =>
      cases e with
      | drew r => exact congrArg some (hDeaf r).1.same
      | _ => rfl
  | save limit new next =>
      cases e with
      | saved r => exact congrArg some (hDeaf.1 r).1.same
      | _ => rfl
  | find limit code next =>
      cases e with
      | found r => exact congrArg some (hDeaf r).1.same
      | _ => rfl
  | count limit code next =>
      cases e with
      | counted r => exact congrArg some (hDeaf r).1.same
      | _ => rfl
  | probe limit next => exact hDeaf.elim
  | visit code next => cases e <;> rfl
  | places next => exact hDeaf.elim
  | note metric next => cases e <;> rfl

theorem feed
    (hDeaf : d.Deaf broken)
    (hFeed : d.feed? e = some next) : next.Deaf broken := by
  cases d with
  | done result => simp at hFeed
  | readClock next =>
      cases e <;> cases hFeed
      exact hDeaf _
  | draw length next =>
      cases e <;> cases hFeed
      exact (hDeaf _).2
  | save limit new next =>
      cases e <;> cases hFeed
      exact (hDeaf.1 _).2
  | find limit code next =>
      cases e <;> cases hFeed
      exact (hDeaf _).2
  | count limit code next =>
      cases e <;> cases hFeed
      exact (hDeaf _).2
  | probe limit next => exact hDeaf.elim
  | visit code next =>
      cases e <;> cases hFeed
      exact hDeaf _
  | places next => exact hDeaf.elim
  | note metric next =>
      cases e <;> cases hFeed
      exact hDeaf

/- A fault that breaks a dialogue ends it as it should. -/
theorem feed_breaks
    (hDeaf : d.Deaf broken)
    (hBreaks : e.Breaks)
    (hFeed : d.feed? e = some next) :
    next = .done broken := by
  cases d with
  | done result => simp at hFeed
  | draw length next =>
      cases e <;> cases hFeed
      exact (hDeaf _).1.breaks hBreaks
  | save limit new next =>
      cases e <;> cases hFeed
      exact (hDeaf.1 _).1.breaks hBreaks
  | find limit code next =>
      cases e <;> cases hFeed
      exact (hDeaf _).1.breaks hBreaks
  | count limit code next =>
      cases e <;> cases hFeed
      exact (hDeaf _).1.breaks hBreaks
  | probe limit next => exact hDeaf.elim
  | places next => exact hDeaf.elim
  | _ =>
      cases e <;> cases hFeed
      exact hBreaks.elim

/- A code that is taken does not end a dialogue. -/
theorem feed_taken
    {code : String}
    (hDeaf : d.Deaf broken)
    (hFeed :
      d.feed? (.saved (some (.error (.conflict code)))) =
        some next) :
    ∃ again, next = .note .collisions again := by
  cases d with
  | save limit new next =>
      cases hFeed
      exact hDeaf.2 code
  | _ => cases hFeed

theorem after
    (hDeaf : d.Deaf broken)
    (hAfter : d.after events = some rest) :
    rest.Deaf broken :=
  after_induction (P := fun _ d => d.Deaf broken)
    feed [] hDeaf hAfter

/-
  Courses that differ in the texts of faults alone lead to
  the same point.
-/
theorem after_mute
    (hDeaf : d.Deaf broken)
    (hMute : events'.map Event.mute = events.map Event.mute) :
    d.after events' = d.after events := by
  induction events generalizing d events' with
  | nil =>
      rw [List.map_nil, List.map_eq_nil_iff] at hMute
      rw [hMute]
  | cons e events ih =>
      cases events' with
      | nil => cases hMute
      | cons e' events' =>
          rw [List.map_cons, List.map_cons, List.cons.injEq]
            at hMute
          have hFeed : d.feed? e' = d.feed? e := by
            rw [← hDeaf.feed_mute e', hMute.1,
              hDeaf.feed_mute]
          rw [Dialogue.after, Dialogue.after, hFeed]
          cases hNext : d.feed? e with
          | none => rfl
          | some next => exact ih (hDeaf.feed hNext) hMute.2

theorem map
    (f : α → β)
    (hDeaf : d.Deaf broken) : (d.map f).Deaf (f broken) := by
  induction d with
  | done result => exact True.intro
  | readClock next ih => exact fun t => ih t (hDeaf t)
  | draw length next ih =>
      exact fun r => ⟨(hDeaf r).1.map f, ih r (hDeaf r).2⟩
  | save limit new next ih =>
      refine ⟨fun r =>
        ⟨(hDeaf.1 r).1.map f, ih r (hDeaf.1 r).2⟩, ?_⟩
      intro code
      rcases hDeaf.2 code with ⟨again, hAgain⟩
      exact ⟨again.map f, congrArg (Dialogue.map f) hAgain⟩
  | find limit code next ih =>
      exact fun r => ⟨(hDeaf r).1.map f, ih r (hDeaf r).2⟩
  | count limit code next ih =>
      exact fun r => ⟨(hDeaf r).1.map f, ih r (hDeaf r).2⟩
  | probe limit next ih => exact hDeaf.elim
  | visit code next ih =>
      exact fun taken => ih taken (hDeaf taken)
  | places next ih => exact hDeaf.elim
  | note metric next ih => exact ih hDeaf

end Deaf

end Dialogue

end UrlShortener

------------------------------------------------------------
-- Answers That Hide Faults
------------------------------------------------------------

namespace UrlShortener

/- The answer to a request that a fault has ended. -/
def Response.broken : Response :=
  .ofError 500 Failure.hidden

namespace Shortener

/- Failures are shown as they are to clients. -/
def ShowsFailures
    {α : Type}
    (f : Except Failure α → Response) : Prop :=
  ∀ failure, f (.error failure) = .ofFailure failure

namespace ShowsFailures

variable {α : Type} {f : Except Failure α → Response}

/-
  Faults of backends are all shown alike, but for a code
  without a link.
-/
theorem ofStore
    (hShows : ShowsFailures f)
    {fault : StoreFault}
    (hFault : fault ≠ .notFound) :
    Dialogue.done (f (.error (.ofStore fault))) =
      .done .broken := by
  rw [hShows]
  cases fault with
  | notFound => exact absurd rfl hFault
  | _ => rfl

theorem ofCounter
    (hShows : ShowsFailures f)
    (fault : CounterFault) :
    Dialogue.done (f (.error (.ofCounter fault))) =
      .done .broken :=
  congrArg Dialogue.done (hShows _)

theorem ofMint
    (hShows : ShowsFailures f)
    (fault : MintFault) :
    Dialogue.done (f (.error (.ofMint fault))) =
      .done .broken :=
  congrArg Dialogue.done (hShows _)

end ShowsFailures

variable {f : Except Failure Link → Response}

/- Going on after a save is deaf if drawing again is. -/
theorem afterSave_deaf
    (hShows : ShowsFailures f)
    (policy : Policy)
    {again : Dialogue (Except Failure Link)}
    (hAgain : (again.map f).Deaf .broken)
    (r : Option (Except StoreFault Link)) :
    let next := fun r => (afterSave policy again r).map f
    Dialogue.Unmoved .broken StoreFault.hush .saved next r ∧
      (next r).Deaf .broken := by
  rcases r with _ | fault | link
  · exact ⟨⟨rfl, fun _ => hShows.ofStore nofun⟩, True.intro⟩
  · cases fault with
    | conflict code => exact ⟨⟨rfl, False.elim⟩, hAgain⟩
    | notFound => exact ⟨⟨rfl, False.elim⟩, True.intro⟩
    | _ =>
        exact ⟨.of_broken (hShows.ofStore nofun)
          (hShows.ofStore nofun), True.intro⟩
  · exact ⟨⟨rfl, False.elim⟩, True.intro⟩

/- Drawing codes is deaf. -/
theorem attempt_deaf
    (hShows : ShowsFailures f)
    (policy : Policy)
    (draft : String → NewLink)
    (left : Nat) :
    ((attempt policy draft left).map f).Deaf .broken := by
  induction left with
  | zero => exact True.intro
  | succ left ih =>
      rintro (fault | code)
      · exact ⟨.of_broken (hShows.ofMint _) (hShows.ofMint _),
          True.intro⟩
      · refine ⟨⟨rfl, False.elim⟩, ?_⟩
        dsimp only
        split
        · exact ih
        · exact ⟨afterSave_deaf hShows policy ih,
            fun code => ⟨_, rfl⟩⟩

/- So is finding an expiry first. -/
theorem withExpiry_deaf
    (policy : Policy)
    (given : Option Timestamp)
    {next :
      Option Timestamp → Dialogue (Except Failure Link)}
    (hNext :
      ∀ expireAt, ((next expireAt).map f).Deaf .broken) :
    ((withExpiry policy given next).map f).Deaf .broken := by
  unfold withExpiry
  split
  · exact hNext _
  · exact hNext _
  · intro now
    dsimp only
    split
    · exact hNext _
    · exact True.intro

theorem create_deaf
    (hShows : ShowsFailures f)
    (policy : Policy)
    (request : LinkRequest) :
    ((create policy request).map f).Deaf .broken := by
  unfold create
  split
  · exact True.intro
  · exact withExpiry_deaf policy _ fun expireAt =>
      attempt_deaf hShows policy _ _

/- A link that was found is judged without a backend. -/
theorem afterFind_deaf
    (code : String)
    (link : Link) :
    ((afterFind code link).map f).Deaf .broken := by
  intro now
  dsimp only
  split
  · exact True.intro
  · intro taken
    dsimp only
    split
    · exact True.intro
    · exact True.intro

theorem resolve_deaf
    (hShows : ShowsFailures f)
    (policy : Policy)
    (code : String) :
    ((resolve policy code).map f).Deaf .broken := by
  unfold resolve
  split
  · exact True.intro
  · rintro (_ | fault | link)
    · exact ⟨⟨rfl, fun _ => hShows.ofStore nofun⟩, True.intro⟩
    · cases fault with
      | notFound => exact ⟨⟨rfl, False.elim⟩, True.intro⟩
      | _ =>
          exact ⟨.of_broken (hShows.ofStore nofun)
            (hShows.ofStore nofun), True.intro⟩
    · exact ⟨⟨rfl, False.elim⟩, afterFind_deaf code link⟩

theorem stats_deaf
    {f : Except Failure Nat → Response}
    (hShows : ShowsFailures f)
    (policy : Policy)
    (code : String) :
    ((stats policy code).map f).Deaf .broken := by
  rintro (_ | fault | n)
  · exact ⟨⟨rfl, fun _ => hShows.ofCounter _⟩, True.intro⟩
  · exact ⟨.of_broken (hShows.ofCounter _)
      (hShows.ofCounter _), True.intro⟩
  · exact ⟨⟨rfl, False.elim⟩, True.intro⟩

end Shortener

namespace Site

variable (site : Site) {r : Request} {path : List Char}

/- The answer to a broken request, or to one for its head. -/
def broken (r : Request) : Response :=
  if r.method = "HEAD" then Response.broken.withoutBody
  else .broken

theorem reading_deaf
    (r : Request)
    {d : Dialogue Response}
    (hDeaf : d.Deaf .broken) :
    (reading r d).Deaf (broken r) := by
  unfold reading broken
  by_cases hGet : r.method = "GET"
  · have hHead : r.method ≠ "HEAD" := by
      rw [hGet]
      decide
    rw [if_pos hGet, if_neg hHead]
    exact hDeaf
  · rw [if_neg hGet]
    by_cases hHead : r.method = "HEAD"
    · rw [if_pos hHead, if_pos hHead]
      exact hDeaf.map _
    · rw [if_neg hHead, if_neg hHead]
      exact True.intro

/- Only the health probe tells what a backend says. -/
theorem answer_deaf
    (hRoute : Route.ofPath? path ≠ some .health) :
    (site.answer r path).Deaf (broken r) := by
  unfold answer
  cases hPath : Route.ofPath? path with
  | none => exact True.intro
  | some route =>
      cases route with
      | health => exact absurd hPath hRoute
      | links =>
          dsimp only
          split
          · rename_i hPost
            have hBroken : broken r = .broken := by
              unfold broken
              rw [if_neg (by rw [hPost]; decide)]
            rw [hBroken]
            unfold create
            split
            · exact True.intro
            · exact Shortener.create_deaf (fun _ => rfl) _ _
          · exact True.intro
      | stats segment =>
          apply reading_deaf
          unfold stats
          split
          · exact True.intro
          · exact Shortener.stats_deaf (fun _ => rfl) _ _
      | code segment =>
          apply reading_deaf
          unfold follow
          split
          · exact True.intro
          · split
            · exact Shortener.resolve_deaf (fun _ => rfl) _ _
            · exact True.intro

end Site

end UrlShortener

------------------------------------------------------------
-- Backends Without Texts
------------------------------------------------------------

namespace UrlShortener

/- What has no text can lose none. -/
theorem StoreFault.hush_mute
    (fault : StoreFault) :
    hush (some (.error fault.mute) :
        Option (Except StoreFault Link)) =
      hush (some (.error fault)) := by
  cases fault with
  | _ => rfl

theorem CounterFault.hush_mute
    (fault : CounterFault) :
    hush (some (.error fault.mute) :
        Option (Except CounterFault Nat)) =
      hush (some (.error fault)) := by
  cases fault with
  | _ => rfl

namespace Reply

variable {ε δ : Type}

/- A reply with another fault, if it has one. -/
def map (f : ε → δ) : Reply ε → Reply δ
| .answers after fault => .answers after (fault.map f)
| .never => .never

theorem next_map
    (f : ε → δ)
    (replies : List (Reply ε)) :
    next (replies.map (map f)) =
      ((next replies).1.map f, (next replies).2.map (map f)) := by
  cases replies with
  | nil => rfl
  | cons reply rest => rfl

theorem within_map
    (f : ε → δ)
    (limit : Nat)
    (reply : Reply ε) :
    (reply.map f).within limit =
      (reply.within limit).map (Option.map f) := by
  cases reply with
  | never => rfl
  | answers after fault =>
      by_cases hTime : after ≤ limit
      · rw [map, within, within, if_pos hTime, if_pos hTime]
        rfl
      · rw [map, within, within, if_neg hTime, if_neg hTime]
        rfl

end Reply

/- A store whose faults to come have no texts. -/
def StoreBackend.mute (b : StoreBackend) : StoreBackend :=
  { b with
      saves := b.saves.map (Reply.map StoreFault.mute)
      finds := b.finds.map (Reply.map StoreFault.mute)
      pings := b.pings.map (Reply.map StoreFault.mute) }

def CounterBackend.mute (b : CounterBackend) : CounterBackend :=
  { b with
      increments :=
        b.increments.map (Reply.map CounterFault.mute)
      gets := b.gets.map (Reply.map CounterFault.mute)
      pings := b.pings.map (Reply.map CounterFault.mute) }

def Draw.mute : Draw → Draw
| .failed _ => .failed ""
| draw => draw

def Minter.mute : Minter → Minter
| .random => .random
| .listed draws => .listed (draws.map Draw.mute)

/- A draw that fails does so without its text. -/
theorem Minter.draw_mute
    (m : Minter)
    (bytes : Nat → UInt8)
    (length : Nat) :
    (m.mute.draw bytes length).1.mapError MintFault.mute =
        (m.draw bytes length).1.mapError MintFault.mute ∧
      (m.mute.draw bytes length).2 =
        (m.draw bytes length).2.mute := by
  cases m with
  | random => exact ⟨rfl, rfl⟩
  | listed draws =>
      cases draws with
      | nil => exact ⟨rfl, rfl⟩
      | cons draw rest =>
          cases draw with
          | given code => exact ⟨rfl, rfl⟩
          | random => exact ⟨rfl, rfl⟩
          | failed reason => exact ⟨rfl, rfl⟩

namespace App

/- The service with backends whose faults have no texts. -/
def mute (s : App) : App :=
  { s with
      links := s.links.mute
      counter := s.counter.mute
      minter := s.minter.mute }

variable (w : Surroundings) (s : App)

theorem beginSave_mute :
    s.mute.beginSave =
      (s.beginSave.1.map StoreFault.mute,
        s.beginSave.2.mute) := by
  unfold beginSave StoreBackend.beginSave mute
    StoreBackend.mute
  dsimp only
  rw [Reply.next_map]

theorem beginFind_mute :
    s.mute.beginFind =
      (s.beginFind.1.map StoreFault.mute,
        s.beginFind.2.mute) := by
  unfold beginFind StoreBackend.beginFind mute
    StoreBackend.mute
  dsimp only
  rw [Reply.next_map]

theorem beginCount_mute :
    s.mute.beginCount =
      (s.beginCount.1.map CounterFault.mute,
        s.beginCount.2.mute) := by
  unfold beginCount CounterBackend.beginGet mute
    CounterBackend.mute
  dsimp only
  rw [Reply.next_map]

theorem draw_mute (length : Nat) :
    (s.mute.draw w length).1.mapError MintFault.mute =
        (s.draw w length).1.mapError MintFault.mute ∧
      (s.mute.draw w length).2 = (s.draw w length).2.mute := by
  have hDrawn :=
    s.minter.draw_mute (w.entropy s.draws) length
  refine ⟨hDrawn.1, ?_⟩
  unfold draw mute
  dsimp only
  rw [hDrawn.2]

theorem endSave_mute
    (came : Option (Option StoreFault))
    (new : NewLink) :
    let ended := s.endSave w came new
    let ended' :=
      s.mute.endSave w (came.map (Option.map .mute)) new
    StoreFault.hush ended'.1 = StoreFault.hush ended.1 ∧
      ended'.2 = ended.2.mute := by
  rcases came with _ | _ | fault
  · exact ⟨rfl, rfl⟩
  · exact ⟨rfl, rfl⟩
  · exact ⟨fault.hush_mute, rfl⟩

theorem endFind_mute
    (came : Option (Option StoreFault))
    (code : String) :
    StoreFault.hush
        (s.mute.links.endFind (came.map (Option.map .mute))
          code) =
      StoreFault.hush (s.links.endFind came code) := by
  rcases came with _ | _ | fault
  · rfl
  · rfl
  · exact fault.hush_mute

theorem endGet_mute
    (came : Option (Option CounterFault))
    (code : String) :
    CounterFault.hush
        (s.mute.counter.endGet (came.map (Option.map .mute))
          code) =
      CounterFault.hush (s.counter.endGet came code) := by
  rcases came with _ | _ | fault
  · rfl
  · rfl
  · exact fault.hush_mute

theorem visit_mute (code : String) :
    s.mute.visit code =
      ((s.visit code).1, (s.visit code).2.mute) := by
  have hQueue : s.mute.queue = s.queue := rfl
  unfold visit
  rw [hQueue]
  cases s.queue.offer? code with
  | some queue => rfl
  | none => rfl

end App

end UrlShortener

------------------------------------------------------------
-- Runs Without Texts
------------------------------------------------------------

namespace UrlShortener

namespace Dialogue

variable {α : Type} {w : Surroundings} {s s' t : App}
variable {broken : α} {d d' : Dialogue α} {e : Event}

/- Answers that differ in the text of a fault are met alike. -/
theorem Unmoved.next_eq
    {ρ : Type}
    {hush : ρ → ρ}
    {event : ρ → Event}
    {next : ρ → Dialogue α}
    {r r' : ρ}
    (hUnmoved : Unmoved broken hush event next r)
    (hUnmoved' : Unmoved broken hush event next r')
    (hHush : hush r' = hush r) : next r' = next r := by
  rw [← hUnmoved'.same, hHush, hUnmoved.same]

/-
  What a call leaves of a dialogue and of the state, when
  faults have no texts.
-/
theorem Deaf.proceed?_mute
    (hDeaf : d.Deaf broken)
    (hStep : d.proceed? w s = some (e, d', t)) :
    (d.proceed? w s.mute).map Prod.snd =
      some (d', t.mute) := by
  cases d with
  | done result => cases hStep
  | readClock next =>
      cases hStep
      rfl
  | draw length next =>
      cases hStep
      have hDrawn := s.draw_mute w length
      have hNext :=
        (hDeaf _).1.next_eq (hDeaf _).1 hDrawn.1
      exact congrArg some (Prod.ext hNext hDrawn.2)
  | save limit new next =>
      cases hStep
      have hEnded :=
        s.beginSave.2.endSave_mute w
          (s.beginSave.1.within limit) new
      have hNext :=
        (hDeaf.1 _).1.next_eq (hDeaf.1 _).1 hEnded.1
      rw [proceed?, s.beginSave_mute]
      dsimp only
      rw [Reply.within_map]
      exact congrArg some (Prod.ext hNext hEnded.2)
  | find limit code next =>
      cases hStep
      have hFound :=
        s.beginFind.2.endFind_mute
          (s.beginFind.1.within limit) code
      have hNext := (hDeaf _).1.next_eq (hDeaf _).1 hFound
      rw [proceed?, s.beginFind_mute]
      dsimp only
      rw [Reply.within_map]
      exact congrArg some (Prod.ext hNext rfl)
  | count limit code next =>
      cases hStep
      have hCounted :=
        s.beginCount.2.endGet_mute
          (s.beginCount.1.within limit) code
      have hNext := (hDeaf _).1.next_eq (hDeaf _).1 hCounted
      rw [proceed?, s.beginCount_mute]
      dsimp only
      rw [Reply.within_map]
      exact congrArg some (Prod.ext hNext rfl)
  | probe limit next => exact hDeaf.elim
  | visit code next =>
      cases hStep
      rw [proceed?, s.visit_mute]
      rfl
  | places next => exact hDeaf.elim
  | note metric next =>
      cases hStep
      rfl

/- So does a run. -/
theorem Deaf.run_mute
    (hDeaf : d.Deaf broken)
    (s : App) :
    d.run w s.mute = ((d.run w s).1, (d.run w s).2.mute) := by
  have hStep :
      ∀ {d : Dialogue α} {s s' e d' t},
        d.Deaf broken ∧ s' = s.mute →
        d.proceed? w s = some (e, d', t) →
          ∃ e' t', d.proceed? w s' = some (e', d', t') ∧
            d'.Deaf broken ∧ t' = t.mute := by
    rintro d s _ e d' t ⟨hDeaf, rfl⟩ hStep
    rcases Option.map_eq_some_iff.mp
        (hDeaf.proceed?_mute hStep) with
      ⟨⟨e', left⟩, hStep', rfl⟩
    exact ⟨e', t.mute, hStep',
      hDeaf.feed (feed?_of_proceed? hStep), rfl⟩
  have hStart : d.Deaf broken ∧ s.mute = s.mute :=
    ⟨hDeaf, rfl⟩
  have hBoth := run_side_by_side hStep hStart
  exact Prod.ext hBoth.1 hBoth.2.2

end Dialogue

namespace Site

variable (site : Site) {r : Request} {trims : Bool}

/-
  Take a request to create a link, to follow one or to ask
  for a count: any request but for the health probe.

  Wherever backends that answer as they like have led it,
  they would have led it there with other texts of faults.
  Where a fault ends it, the answer is the same for all
  faults and tells nothing of them, and a code that is taken
  does not end it. The backends of the service are such
  backends: two states of the service that differ in the
  texts of faults to come answer it alike, and still differ
  in them alone.
-/
theorem fault_texts_never_show
    (hRoute : Route.ofPath? (seen trims r) ≠ some .health) :
    (∀ events events',
      events'.map Event.mute = events.map Event.mute →
        (site.respond trims r).after events' =
          (site.respond trims r).after events) ∧
    (∀ events rest e next,
      (site.respond trims r).after events = some rest →
      rest.feed? e = some next →
        (e.Breaks →
          next = .done
            { status := 500
              location := none
              contentType := some "application/json"
              allow := none
              body :=
                if r.method = "HEAD" then none
                else
                  some (.record
                    [("error",
                      .text "Internal server error")]) }) ∧
        ∀ code, e = .saved (some (.error (.conflict code))) →
          ∃ again, next = .note .collisions again) ∧
    (∀ w s s', s'.mute = s.mute →
      let ran := (site.respond trims r).run w s
      let ran' := (site.respond trims r).run w s'
      ran'.1 = ran.1 ∧ ran'.2.mute = ran.2.mute) := by
  have hDeaf :
      (site.respond trims r).Deaf (broken r) := by
    rw [respond_eq]
    exact site.answer_deaf hRoute
  refine ⟨?_, ?_, ?_⟩
  · intro events events' hMute
    exact hDeaf.after_mute hMute
  · intro events rest e next hAfter hFeed
    have hRest := hDeaf.after hAfter
    refine ⟨?_, ?_⟩
    · intro hBreaks
      rw [hRest.feed_breaks hBreaks hFeed, broken]
      by_cases hHead : r.method = "HEAD"
      · rw [if_pos hHead, if_pos hHead]
        rfl
      · rw [if_neg hHead, if_neg hHead]
        rfl
    · rintro code rfl
      exact hRest.feed_taken hFeed
  · intro w s s' hMute ran ran'
    have hRun := hDeaf.run_mute (w := w) s
    have hRun' := hDeaf.run_mute (w := w) s'
    rw [hMute, hRun] at hRun'
    exact ⟨(congrArg Prod.fst hRun').symm,
      (congrArg Prod.snd hRun').symm⟩

/- A store that is out of order, and says so or does not. -/
def sampleOutOfOrder (reason : String) : App :=
  { App.init (.listed []) 1 with
      links :=
        { StoreBackend.fresh with
            finds := [.refused (.backend reason)] } }

theorem sample_reason_never_shows :
    let site : Site := ⟨.usual, 1000⟩
    let w : Surroundings := ⟨fun n => ⟨0, n, 0⟩, fun _ _ => 0⟩
    let r : Request := ⟨"GET", "/abc", [], []⟩
    let ran := (site.respond true r).run w
      (sampleOutOfOrder "no route to 10.0.0.3")
    let ran' := (site.respond true r).run w
      (sampleOutOfOrder "")
    Route.ofPath? (seen true r) ≠ some .health ∧
      ran.1.status = 500 ∧ ran'.1 = ran.1 := by
  intro site w r ran ran'
  have hRoute : Route.ofPath? (seen true r) ≠ some .health := by
    decide
  have hMute :
      (sampleOutOfOrder "").mute =
        (sampleOutOfOrder "no route to 10.0.0.3").mute := rfl
  have hShows := fault_texts_never_show site hRoute
  refine ⟨hRoute, ?_, (hShows.2.2 w _ _ hMute).1⟩
  decide +kernel

end Site

end UrlShortener
