import UrlShortener.Http.Router
import UrlShortener.Proofs.App.Step

/-
  What dialogues do to visits. Most of them leave the queue,
  the tally and the totals of visits alone. A resolution that
  goes well adds one to the resolved ones, and queues a visit
  of its code or counts it as dropped; one that fails does
  nothing. An HTTP request does the one or the other.

  Key definitions include:
    * `App.SameVisits`
    * `App.Visited`
    * `Request.follows?`

  Main declarations:
    * `Dialogue.run_quiet`
    * `Shortener.run_resolve_cases`
    * `Site.answer_of_follows`
    * `Site.answer_quiet`
-/

------------------------------------------------------------
-- Runs
------------------------------------------------------------

namespace UrlShortener

namespace Dialogue

variable {α β γ : Type} {w : Surroundings}

/- A run does not see what becomes of the result. -/
theorem run_map
    (f : α → β)
    (d : Dialogue α)
    (s : App) :
    (d.map f).run w s = (f (d.run w s).1, (d.run w s).2) := by
  induction d generalizing s with
  | done result => rfl
  | readClock next ih => exact ih _ _
  | draw length next ih => exact ih _ _
  | save limit new next ih => exact ih _ _
  | find limit code next ih => exact ih _ _
  | count limit code next ih => exact ih _ _
  | probe limit next ih => exact ih _ _ _
  | visit code next ih => exact ih _ _
  | places next ih => exact ih _ _
  | note metric next ih => exact ih _

end Dialogue

end UrlShortener

------------------------------------------------------------
-- Visits Left Alone
------------------------------------------------------------

namespace UrlShortener

namespace App

/- Two states that agree on everything about visits. -/
structure SameVisits (s s' : App) : Prop where
  queue : s'.queue = s.queue
  tally : s'.counter.tally = s.counter.tally
  increments : s'.counter.increments = s.counter.increments
  resolves : s'.metrics.resolves = s.metrics.resolves
  dropped : s'.metrics.visitsDropped = s.metrics.visitsDropped
  recorded :
    s'.metrics.visitsRecorded = s.metrics.visitsRecorded
  failed : s'.metrics.visitsFailed = s.metrics.visitsFailed

namespace SameVisits

variable {s s' s'' : App}

theorem refl (s : App) : SameVisits s s :=
  ⟨rfl, rfl, rfl, rfl, rfl, rfl, rfl⟩

theorem trans
    (hFirst : SameVisits s s')
    (hSecond : SameVisits s' s'') : SameVisits s s'' where
  queue := hSecond.queue.trans hFirst.queue
  tally := hSecond.tally.trans hFirst.tally
  increments := hSecond.increments.trans hFirst.increments
  resolves := hSecond.resolves.trans hFirst.resolves
  dropped := hSecond.dropped.trans hFirst.dropped
  recorded := hSecond.recorded.trans hFirst.recorded
  failed := hSecond.failed.trans hFirst.failed

end SameVisits

end App

/- Asking for nothing that has to do with visits. -/
def Ask.Quiet : Ask → Prop
| .visit _ => False
| .note metric =>
    metric = .linksCreated ∨ metric = .collisions ∨
      metric = .exhausted
| _ => True

/-
  Asking for what a request that resolves no code asks for:
  it looks up no link, queues no visit, and the links that
  it saves lead to destinations that were accepted.
-/
def Ask.Elsewhere : Ask → Prop
| .find _ => False
| .save new =>
    ∃ u, Destination.validate new.longUrl = .ok u
| a => a.Quiet

theorem Ask.Elsewhere.quiet
    {a : Ask}
    (hElsewhere : a.Elsewhere) : a.Quiet := by
  cases a with
  | find code => exact True.intro
  | save new => exact True.intro
  | _ => exact hElsewhere

namespace Dialogue

variable {α : Type} {w : Surroundings} {s s' : App}
variable {d d' : Dialogue α} {e : Event}

theorem sameVisits_of_proceed?
    (hQuiet : d.Within Ask.Quiet)
    (hStep : d.proceed? w s = some (e, d', s')) :
    s.SameVisits s' := by
  cases d with
  | done result => cases hStep
  | visit code next => exact hQuiet.1.elim
  | note metric next =>
      cases hStep
      rcases hQuiet.1 with rfl | rfl | rfl
      · exact ⟨rfl, rfl, rfl, rfl, rfl, rfl, rfl⟩
      · exact ⟨rfl, rfl, rfl, rfl, rfl, rfl, rfl⟩
      · exact ⟨rfl, rfl, rfl, rfl, rfl, rfl, rfl⟩
  | _ =>
      cases hStep
      exact ⟨rfl, rfl, rfl, rfl, rfl, rfl, rfl⟩

/- A quiet dialogue leaves visits alone. -/
theorem run_quiet
    (hQuiet : d.Within Ask.Quiet) :
    s.SameVisits (d.run w s).2 := by
  have hRun :=
    run_induction (w := w)
      (P := fun d' s' =>
        d'.Within Ask.Quiet ∧ s.SameVisits s')
      (fun ⟨hQuiet, hSame⟩ hStep =>
        ⟨hQuiet.feed (feed?_of_proceed? hStep),
          hSame.trans (sameVisits_of_proceed? hQuiet hStep)⟩)
      ⟨hQuiet, App.SameVisits.refl s⟩
  exact hRun.2

end Dialogue

/-
  Asking for what a creation asks for. It saves links to
  destinations that were accepted, and no others.
-/
def Ask.Creates : Ask → Prop
| .clock => True
| .code => True
| .save new =>
    ∃ u, Destination.validate new.longUrl = .ok u
| .note metric =>
    metric = .linksCreated ∨ metric = .collisions ∨
      metric = .exhausted
| _ => False

theorem Ask.Creates.elsewhere
    {a : Ask}
    (hCreates : a.Creates) : a.Elsewhere := by
  cases a with
  | clock => exact True.intro
  | code => exact True.intro
  | save new => exact hCreates
  | note metric => exact hCreates
  | _ => exact hCreates.elim

namespace Shortener

/- What the attempts of a creation ask for, with their drafts. -/
structure AttemptsAsk
    (draft : String → NewLink)
    (P : Ask → Prop) : Prop where
  code : P .code
  save : ∀ code, P (.save (draft code))
  note :
    ∀ metric,
      metric = .linksCreated ∨ metric = .collisions ∨
        metric = .exhausted → P (.note metric)

theorem afterSave_within
    {draft : String → NewLink}
    {P : Ask → Prop}
    (policy : Policy)
    (hAsk : AttemptsAsk draft P)
    {again : Dialogue (Except Failure Link)}
    (hAgain : again.Within P)
    (reply : Option (Except StoreFault Link)) :
    (afterSave policy again reply).Within P := by
  unfold afterSave
  split
  · exact True.intro
  · exact ⟨hAsk.note _ (Or.inl rfl), True.intro⟩
  · exact ⟨hAsk.note _ (Or.inr (Or.inl rfl)), hAgain⟩
  · exact True.intro

/- Attempts draw codes and save drafts, and nothing else. -/
theorem attempt_within
    {draft : String → NewLink}
    {P : Ask → Prop}
    (policy : Policy)
    (hAsk : AttemptsAsk draft P)
    (left : Nat) :
    (attempt policy draft left).Within P := by
  induction left with
  | zero =>
      exact ⟨hAsk.note _ (Or.inr (Or.inr rfl)), True.intro⟩
  | succ left ih =>
      refine ⟨hAsk.code, ?_⟩
      intro drawn
      dsimp only
      split
      · exact True.intro
      · split
        · exact ih
        · exact ⟨hAsk.save _, afterSave_within policy hAsk ih⟩

/- Only links to accepted destinations are created. -/
theorem create_within
    (policy : Policy)
    (request : LinkRequest) :
    (create policy request).Within Ask.Creates := by
  unfold create
  split
  · exact True.intro
  · rename_i u hValid
    have hAsk (expireAt : Option Timestamp) :
        AttemptsAsk (request.draft expireAt) Ask.Creates :=
      ⟨True.intro, fun _ => ⟨u, hValid⟩, fun _ hNote => hNote⟩
    unfold withExpiry
    split
    · exact attempt_within policy (hAsk _) _
    · exact attempt_within policy (hAsk _) _
    · refine ⟨True.intro, ?_⟩
      intro now
      dsimp only
      split
      · exact attempt_within policy (hAsk _) _
      · exact True.intro

/- Creating links has nothing to do with finding them. -/
theorem create_elsewhere
    (policy : Policy)
    (request : LinkRequest) :
    (create policy request).Within Ask.Elsewhere :=
  (create_within policy request).mono
    fun _ => Ask.Creates.elsewhere

/- Nor has reading counts. -/
theorem stats_elsewhere
    (policy : Policy)
    (code : String) :
    (stats policy code).Within Ask.Elsewhere := by
  refine ⟨True.intro, ?_⟩
  intro reply
  dsimp only
  split
  · exact True.intro
  · exact True.intro
  · exact True.intro

/- Creating links leaves visits alone. -/
theorem create_quiet
    (policy : Policy)
    (request : LinkRequest) :
    (create policy request).Within Ask.Quiet :=
  (create_elsewhere policy request).mono
    fun _ => Ask.Elsewhere.quiet

/- So does reading counts. -/
theorem stats_quiet
    (policy : Policy)
    (code : String) :
    (stats policy code).Within Ask.Quiet :=
  (stats_elsewhere policy code).mono
    fun _ => Ask.Elsewhere.quiet

end Shortener

end UrlShortener

------------------------------------------------------------
-- Links Under Their Codes
------------------------------------------------------------

namespace UrlShortener

namespace LinkStore

/- A link is found under its own code only. -/
def Keyed (s : LinkStore) : Prop :=
  ∀ {code link}, s.get? code = some link →
    link.shortCode = code

theorem keyed_empty : LinkStore.empty.Keyed := nofun

theorem Keyed.insert
    {s : LinkStore}
    (hKeyed : s.Keyed)
    (new : NewLink)
    (now : Timestamp) : (s.insert new now).2.Keyed := by
  intro code link hFound
  rw [get?_insert, Option.or_eq_some_iff] at hFound
  rcases hFound with hOld | ⟨_, hNew⟩
  · exact hKeyed hOld
  · split at hNew
    · rename_i hCode
      cases hNew
      exact hCode
    · cases hNew

end LinkStore

/- Every dialogue leaves links under their codes. -/
theorem Dialogue.run_keyed
    {α : Type}
    {w : Surroundings}
    {s : App}
    (hKeyed : s.links.store.Keyed)
    (d : Dialogue α) : (d.run w s).2.links.store.Keyed := by
  refine run_induction (w := w) (d := d)
    (P := fun _ s => s.links.store.Keyed) ?_ hKeyed
  intro d s e d' s' hKeyed hStep
  rcases proceed?_store_cases hStep with
    ⟨hSame, _⟩ | ⟨_, new, _, _, _, _, hStore⟩
  · rw [hSame]
    exact hKeyed
  · rw [hStore]
    exact hKeyed.insert new _

end UrlShortener

------------------------------------------------------------
-- Visits Of A Code
------------------------------------------------------------

namespace UrlShortener

namespace App

/- A queue that takes no more visits. -/
def Refuses (s : App) : Prop :=
  s.queue.closed = true ∨
    s.queue.capacity ≤ s.queue.waiting.length

/- A queue with a visit of a code at its end. -/
def queued (s : App) (code : String) : VisitQueue :=
  { s.queue with waiting := s.queue.waiting ++ [code] }

/- A visit is refused just by a queue that is full or closed. -/
theorem visit_cases
    (s : App)
    (code : String) :
    (s.Refuses ∧ s.visit code = (false, s)) ∨
    (¬ s.Refuses ∧
      s.visit code =
        (true, { s with queue := s.queued code })) := by
  unfold visit VisitQueue.offer?
  by_cases hRefuses : s.Refuses
  · have hFull :
        (s.queue.closed || s.queue.free == 0) = true := by
      rcases hRefuses with hClosed | hLength
      · simp [hClosed]
      · simp [VisitQueue.free, Nat.sub_eq_zero_of_le hLength]
    rw [if_pos hFull]
    exact Or.inl ⟨hRefuses, rfl⟩
  · have hFree :
        ¬ (s.queue.closed || s.queue.free == 0) = true := by
      intro hFull
      apply hRefuses
      simp only [Bool.or_eq_true, beq_iff_eq] at hFull
      exact hFull.imp_right Nat.le_of_sub_eq_zero
    rw [if_neg hFree]
    exact Or.inr ⟨hRefuses, rfl⟩

/-
  A code was resolved: its visit was queued, or dropped if
  the queue refused it, and nothing else has happened to
  visits.
-/
structure Visited (code : String) (s s' : App) : Prop where
  tally : s'.counter.tally = s.counter.tally
  increments : s'.counter.increments = s.counter.increments
  resolves : s'.metrics.resolves = s.metrics.resolves + 1
  recorded :
    s'.metrics.visitsRecorded = s.metrics.visitsRecorded
  failed : s'.metrics.visitsFailed = s.metrics.visitsFailed
  offered :
    (s.Refuses ∧ s'.queue = s.queue ∧
      s'.metrics.visitsDropped =
        s.metrics.visitsDropped + 1) ∨
    (¬ s.Refuses ∧ s'.queue = s.queued code ∧
      s'.metrics.visitsDropped = s.metrics.visitsDropped)

/- What happened before to other things does not matter. -/
theorem Visited.of_same
    {code : String}
    {s s' s'' : App}
    (hSame : SameVisits s s')
    (hVisited : Visited code s' s'') : Visited code s s'' where
  tally := hVisited.tally.trans hSame.tally
  increments := hVisited.increments.trans hSame.increments
  resolves := by rw [hVisited.resolves, hSame.resolves]
  recorded := hVisited.recorded.trans hSame.recorded
  failed := hVisited.failed.trans hSame.failed
  offered := by
    have hOffered := hVisited.offered
    unfold Refuses queued at hOffered ⊢
    rw [hSame.queue, hSame.dropped] at hOffered
    exact hOffered

end App

/- A link that a look-up answers was found in the store. -/
theorem StoreBackend.get?_of_endFind
    {b : StoreBackend}
    {came : Option (Option StoreFault)}
    {code : String}
    {link : Link}
    (hFound : b.endFind came code = some (.ok link)) :
    b.store.get? code = some link := by
  rcases came with _ | _ | fault
  · cases hFound
  · have hAnswer : b.store.find code = .ok link :=
      Option.some.inj hFound
    unfold LinkStore.find at hAnswer
    split at hAnswer
    · cases hAnswer
    · exact LinkStore.findOpen_eq_ok_iff.mp hAnswer
  · cases hFound

namespace Shortener

variable {w : Surroundings}

/- Noting and scheduling a visit. -/
theorem run_resolved
    {α : Type}
    (code : String)
    (result : α)
    (s : App) :
    let run :=
      (Dialogue.note .resolves (schedule code result)).run w s
    run.1 = result ∧ s.Visited code run.2 := by
  intro run
  have hRefuses :
      (s.note .resolves).Refuses ↔ s.Refuses := Iff.rfl
  rcases (s.note .resolves).visit_cases code with
    ⟨hRefused, hVisit⟩ | ⟨hTaken, hVisit⟩
  · have hRun :
        run =
          (result,
            (s.note .resolves).note .visitsDropped) := by
      simp only [run, schedule, Dialogue.run, hVisit,
        Bool.false_eq_true, if_false]
    rw [hRun]
    exact ⟨rfl, rfl, rfl, rfl, rfl, rfl,
      Or.inl ⟨hRefuses.mp hRefused, rfl, rfl⟩⟩
  · have hRun :
        run =
          (result,
            { s.note .resolves with
                queue := (s.note .resolves).queued code }) := by
      simp only [run, schedule, Dialogue.run, hVisit, if_true]
    rw [hRun]
    exact ⟨rfl, rfl, rfl, rfl, rfl, rfl,
      Or.inr ⟨mt hRefuses.mpr hTaken, rfl, rfl⟩⟩

/- Judging a link that was found. -/
theorem run_afterFind_cases
    (code : String)
    (link : Link)
    (s : App) :
    let run := (afterFind code link).run w s
    (∃ failure, run.1 = .error failure ∧
      s.SameVisits run.2) ∨
    (run.1 = .ok link ∧
      s.Visited link.shortCode run.2) := by
  intro run
  have hRead : s.SameVisits (s.readClock w).2 :=
    ⟨rfl, rfl, rfl, rfl, rfl, rfl, rfl⟩
  have hRun :
      run =
        (if link.expiredAt (w.clock s.readings) then
          Dialogue.done (.error (expiredCode code))
        else
          .note .resolves
            (schedule link.shortCode (.ok link))).run w
          (s.readClock w).2 := rfl
  rw [hRun]
  by_cases hExpired :
      link.expiredAt (w.clock s.readings) = true
  · rw [if_pos hExpired]
    exact Or.inl ⟨_, rfl, hRead⟩
  · have hResolved := run_resolved (w := w) link.shortCode
      (Except.ok (ε := Failure) link) (s.readClock w).2
    rw [if_neg hExpired]
    exact Or.inr ⟨hResolved.1, hResolved.2.of_same hRead⟩

/- A look-up that answers no link makes a resolution fail. -/
theorem run_resolve_of_missed
    {policy : Policy}
    {code : String}
    {s : App}
    (hBlank : ¬ Text.isBlankText code = true)
    (hMissed :
      ∀ link,
        s.beginFind.2.links.endFind
            (s.beginFind.1.within policy.storeTimeout) code ≠
          some (.ok link)) :
    ∃ failure,
      (resolve policy code).run w s =
        (.error failure, s.beginFind.2) := by
  simp only [resolve, if_neg hBlank, Dialogue.run]
  rcases hFound :
      s.beginFind.2.links.endFind
        (s.beginFind.1.within policy.storeTimeout) code with
    _ | fault | link
  · exact ⟨_, rfl⟩
  · cases fault with
    | notFound => exact ⟨_, rfl⟩
    | _ => exact ⟨_, rfl⟩
  · exact absurd hFound (hMissed link)

/- One that answers a link leaves it to be judged. -/
theorem run_resolve_of_found
    {policy : Policy}
    {code : String}
    {s : App}
    {link : Link}
    (hBlank : ¬ Text.isBlankText code = true)
    (hFound :
      s.beginFind.2.links.endFind
          (s.beginFind.1.within policy.storeTimeout) code =
        some (.ok link)) :
    (resolve policy code).run w s =
      (afterFind code link).run w s.beginFind.2 := by
  simp only [resolve, if_neg hBlank, Dialogue.run, hFound]

/-
  A resolution fails and leaves visits alone, or goes well
  and makes a visit of its code.
-/
theorem run_resolve_cases
    (policy : Policy)
    (code : String)
    {s : App}
    (hKeyed : s.links.store.Keyed) :
    let run := (resolve policy code).run w s
    (∃ failure, run.1 = .error failure ∧
      s.SameVisits run.2) ∨
    (∃ link, run.1 = .ok link ∧ s.Visited code run.2) := by
  intro run
  have hBegun : s.SameVisits s.beginFind.2 :=
    ⟨rfl, rfl, rfl, rfl, rfl, rfl, rfl⟩
  by_cases hBlank : Text.isBlankText code = true
  · have hRun : run = (.error blankCode, s) := by
      simp only [run, resolve, if_pos hBlank, Dialogue.run]
    rw [hRun]
    exact Or.inl ⟨_, rfl, App.SameVisits.refl s⟩
  · by_cases hAnswer :
        ∃ link,
          s.beginFind.2.links.endFind
              (s.beginFind.1.within policy.storeTimeout) code =
            some (.ok link)
    · rcases hAnswer with ⟨link, hFound⟩
      have hRun :
          run = (afterFind code link).run w s.beginFind.2 :=
        run_resolve_of_found hBlank hFound
      have hCode : link.shortCode = code :=
        hKeyed (StoreBackend.get?_of_endFind hFound)
      rw [hRun]
      rcases run_afterFind_cases (w := w) code link
          s.beginFind.2 with
        ⟨failure, hError, hSame⟩ | ⟨hOk, hVisited⟩
      · exact Or.inl ⟨failure, hError, hBegun.trans hSame⟩
      · rw [hCode] at hVisited
        exact Or.inr ⟨link, hOk, hVisited.of_same hBegun⟩
    · rcases run_resolve_of_missed (w := w) hBlank
          (not_exists.mp hAnswer) with ⟨failure, hError⟩
      have hRun : run = (.error failure, s.beginFind.2) :=
        hError
      rw [hRun]
      exact Or.inl ⟨failure, rfl, hBegun⟩

end Shortener

end UrlShortener

------------------------------------------------------------
-- HTTP Requests
------------------------------------------------------------

namespace UrlShortener

namespace Dialogue

variable {α β γ : Type}

theorem map_map
    (f : α → β)
    (g : β → γ)
    (d : Dialogue α) :
    (d.map f).map g = d.map fun a => g (f a) := by
  unfold map
  induction d with
  | done result => rfl
  | readClock next ih =>
      exact congrArg _ (funext ih)
  | draw length next ih =>
      exact congrArg _ (funext ih)
  | save limit new next ih =>
      exact congrArg _ (funext ih)
  | find limit code next ih =>
      exact congrArg _ (funext ih)
  | count limit code next ih =>
      exact congrArg _ (funext ih)
  | probe limit next ih =>
      exact congrArg _ (funext fun a => funext (ih a))
  | visit code next ih =>
      exact congrArg _ (funext ih)
  | places next ih =>
      exact congrArg _ (funext ih)
  | note metric next ih =>
      exact congrArg _ ih

end Dialogue

/- The code that a request for a path resolves, if any. -/
def Request.follows? (r : Request) (path : List Char) :
    Option String :=
  match Route.ofPath? path with
  | some (.code segment) =>
      if r.method = "GET" ∨ r.method = "HEAD" then
        (Site.segmentText? segment).filter Code.isCandidate
      else
        none
  | _ => none

namespace Site

variable (site : Site) {r : Request} {path : List Char}

/- A request that resolves a code does nothing else. -/
theorem answer_of_follows
    {code : String}
    (hFollows : r.follows? path = some code) :
    ∃ f : Except Failure Link → Response,
      site.answer r path =
        (Shortener.resolve site.policy code).map f := by
  unfold Request.follows? at hFollows
  unfold answer
  split at hFollows
  · rename_i segment hRoute
    split at hFollows
    · rename_i hMethod
      rw [Option.filter_eq_some_iff] at hFollows
      rw [hRoute]
      have hFollow :
          ∃ f : Except Failure Link → Response,
            site.follow segment =
              (Shortener.resolve site.policy code).map f := by
        unfold follow
        rw [hFollows.1]
        dsimp only
        rw [if_pos hFollows.2]
        exact ⟨_, rfl⟩
      rcases hFollow with ⟨f, hFollow⟩
      dsimp only
      rw [hFollow]
      unfold reading
      by_cases hGet : r.method = "GET"
      · rw [if_pos hGet]
        exact ⟨f, rfl⟩
      · rw [if_neg hGet, if_pos (hMethod.resolve_left hGet),
          Dialogue.map_map]
        exact ⟨_, rfl⟩
    · cases hFollows
  · cases hFollows

/- Looking at the method asks for nothing. -/
theorem reading_within
    {P : Ask → Prop}
    (r : Request)
    {d : Dialogue Response}
    (hWithin : d.Within P) : (reading r d).Within P := by
  unfold reading
  split
  · exact hWithin
  · split
    · exact hWithin.map _
    · exact True.intro

/- For a segment that could name no link nothing is asked. -/
theorem follow_within
    {P : Ask → Prop}
    {segment : List Char}
    (hNone :
      (segmentText? segment).filter Code.isCandidate = none) :
    (site.follow segment).Within P := by
  unfold follow
  cases hText : segmentText? segment with
  | none => exact True.intro
  | some code =>
      rw [hText, Option.filter_eq_none_iff] at hNone
      dsimp only
      rw [if_neg (hNone code rfl)]
      exact True.intro

/- Every other request has to do with no visitor. -/
theorem answer_elsewhere
    (hFollows : r.follows? path = none) :
    (site.answer r path).Within Ask.Elsewhere := by
  unfold Request.follows? at hFollows
  unfold answer
  cases hRoute : Route.ofPath? path with
  | none => exact True.intro
  | some route =>
      cases route with
      | health =>
          apply reading_within
          exact ⟨True.intro, fun _ _ =>
            ⟨True.intro, fun _ => True.intro⟩⟩
      | links =>
          dsimp only
          split
          · unfold create
            split
            · exact True.intro
            · exact (Shortener.create_elsewhere site.policy _).map _
          · exact True.intro
      | stats segment =>
          apply reading_within
          unfold stats
          split
          · exact True.intro
          · exact (Shortener.stats_elsewhere site.policy _).map _
      | code segment =>
          rw [hRoute] at hFollows
          dsimp only at hFollows ⊢
          unfold reading
          by_cases hGet : r.method = "GET"
          · rw [if_pos (Or.inl hGet)] at hFollows
            rw [if_pos hGet]
            exact site.follow_within hFollows
          · rw [if_neg hGet]
            by_cases hHead : r.method = "HEAD"
            · rw [if_pos (Or.inr hHead)] at hFollows
              rw [if_pos hHead]
              exact (site.follow_within hFollows).map _
            · rw [if_neg hHead]
              exact True.intro

/- Every other request leaves visits alone. -/
theorem answer_quiet
    (hFollows : r.follows? path = none) :
    (site.answer r path).Within Ask.Quiet :=
  (site.answer_elsewhere hFollows).mono
    fun _ => Ask.Elsewhere.quiet

end Site

end UrlShortener
