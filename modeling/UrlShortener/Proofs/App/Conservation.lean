import UrlShortener.App.Settle
import UrlShortener.Proofs.App.Visits
import UrlShortener.Proofs.Visit.Worker

/-
  Visits are conserved. A journal is kept beside the service:
  which codes were resolved, and what has become of their
  visits. Whatever the service was asked to do, every visit
  was dropped, recorded or given up, waits in the queue, or
  was discarded with it; the totals agree with the journal,
  and the counter with the visits recorded.

  Key definitions include:
    * `Journal`
    * `AppStep`
    * `Journal.step`
    * `Journal.Balanced`

  Main declarations:
    * `Journal.Balanced.step`
    * `Journal.refuses_of_dropped`
    * `Journal.visits_are_conserved`
-/

------------------------------------------------------------
-- Journals
------------------------------------------------------------

namespace UrlShortener

/- The replies of the backends to the calls to come. -/
structure Scripts where
  saves : List (Reply StoreFault)
  finds : List (Reply StoreFault)
  storePings : List (Reply StoreFault)
  increments : List (Reply CounterFault)
  gets : List (Reply CounterFault)
  counterPings : List (Reply CounterFault)

/- The service at the start, with the replies to come. -/
def App.scripted
    (minter : Minter)
    (capacity : Nat)
    (scripts : Scripts) : App :=
  { App.init minter capacity with
      links :=
        { store := .empty
          saves := scripts.saves
          finds := scripts.finds
          pings := scripts.storePings }
      counter :=
        { tally := .empty
          increments := scripts.increments
          gets := scripts.gets
          pings := scripts.counterPings } }

/-
  What the service can be asked to do: to serve a call or an
  HTTP request, with its path trimmed or as it is, to record
  the visits that wait, or to discard them for good.
-/
inductive AppStep where
| create (request : LinkRequest)
| resolve (code : String)
| stats (code : String)
| http (request : Request)
| httpTrimmed (request : Request)
| settle (rest : Nat → Nat → Nat)
| close

/- The service, with the codes of the visits so far. -/
structure Journal where
  app : App
  resolved : List String
  dropped : List String
  recorded : List String
  failed : List String
  discarded : List String

namespace Journal

variable (w : Surroundings) (site : Site)
variable (rules : RecordingRules)

def start (app : App) : Journal :=
  { app, resolved := [], dropped := [], recorded := []
    failed := [], discarded := [] }

/-
  Note the result of a resolution. A visit was dropped for
  each one by which the total of dropped visits grew.
-/
def noteResolution
    (code : String)
    (result : Except Failure Link)
    (app : App)
    (j : Journal) : Journal :=
  match result with
  | .error _ => { j with app := app }
  | .ok _ =>
      let dropped :=
        app.metrics.visitsDropped -
          j.app.metrics.visitsDropped
      { j with
          app := app
          resolved := j.resolved ++ [code]
          dropped := j.dropped ++ List.replicate dropped code }

def resolve (code : String) (j : Journal) : Journal :=
  let run := (Shortener.resolve site.policy code).run w j.app
  j.noteResolution code run.1 run.2

/-
  Answer a request for a path. One that follows a code is
  noted as a resolution of the code.
-/
def answer
    (r : Request)
    (path : List Char)
    (j : Journal) : Journal :=
  let app := ((site.answer r path).run w j.app).2
  match r.follows? path with
  | none => { j with app := app }
  | some code =>
      let run :=
        (Shortener.resolve site.policy code).run w j.app
      j.noteResolution code run.1 app

def settle (rest : Nat → Nat → Nat) (j : Journal) : Journal :=
  let settled := j.app.settle rules rest
  { j with
      app := settled.2
      recorded := j.recorded ++ settled.1.recordedCodes
      failed := j.failed ++ settled.1.failedCodes }

def close (j : Journal) : Journal :=
  { j with
      app := { j.app with queue := j.app.queue.close }
      discarded := j.discarded ++ j.app.queue.waiting }

def step (j : Journal) : AppStep → Journal
| .create request =>
    { j with
        app :=
          ((Shortener.create site.policy request).run w
            j.app).2 }
| .resolve code => j.resolve w site code
| .stats code =>
    { j with
        app :=
          ((Shortener.stats site.policy code).run w j.app).2 }
| .http r => j.answer w site r (Target.path r.target)
| .httpTrimmed r =>
    j.answer w site r (Target.trimmed (Target.path r.target))
| .settle rest => j.settle rules rest
| .close => j.close

def run (j : Journal) (steps : List AppStep) : Journal :=
  steps.foldl (step w site rules) j

end Journal

end UrlShortener

------------------------------------------------------------
-- Balance
------------------------------------------------------------

namespace UrlShortener

namespace Journal

/-
  Every visit is accounted for, and the totals and the tally
  agree with the journal. No visit has failed if all replies
  of the counter come in time and without a fault.
-/
structure Balanced
    (capacity : Nat)
    (rules : RecordingRules)
    (replies : List (Reply CounterFault))
    (j : Journal) : Prop where
  conserved :
    ∀ code,
      j.resolved.count code =
        j.dropped.count code + j.recorded.count code +
          j.failed.count code +
          j.app.queue.waiting.count code +
          j.discarded.count code
  resolves : j.app.metrics.resolves = j.resolved.length
  dropped : j.app.metrics.visitsDropped = j.dropped.length
  recorded : j.app.metrics.visitsRecorded = j.recorded.length
  failed : j.app.metrics.visitsFailed = j.failed.length
  counted :
    ∀ code,
      j.app.counter.tally.count code = j.recorded.count code
  capacity_eq : j.app.queue.capacity = capacity
  bounded : j.app.queue.waiting.length ≤ capacity
  keyed : j.app.links.store.Keyed
  replies_subset : j.app.counter.increments ⊆ replies
  unfailing :
    (∀ reply ∈ replies,
      reply.within rules.limit = some none) → j.failed = []

theorem balanced_start
    (minter : Minter)
    (capacity : Nat)
    (scripts : Scripts)
    (rules : RecordingRules) :
    (start (App.scripted minter capacity scripts)).Balanced
      capacity rules scripts.increments where
  conserved := fun _ => rfl
  resolves := rfl
  dropped := rfl
  recorded := rfl
  failed := rfl
  counted := fun _ => rfl
  capacity_eq := rfl
  bounded := Nat.zero_le _
  keyed := LinkStore.keyed_empty
  replies_subset := List.Subset.refl _
  unfailing := fun _ => rfl

variable {w : Surroundings} {site : Site}
variable {rules : RecordingRules} {capacity : Nat}
variable {replies : List (Reply CounterFault)} {j : Journal}

namespace Balanced

/- What leaves visits alone leaves the journal balanced. -/
theorem same
    (hBalanced : j.Balanced capacity rules replies)
    {app : App}
    (hSame : j.app.SameVisits app)
    (hKeyed : app.links.store.Keyed) :
    { j with app := app }.Balanced capacity rules replies where
  conserved := by
    intro code
    rw [hSame.queue]
    exact hBalanced.conserved code
  resolves := hSame.resolves.trans hBalanced.resolves
  dropped := hSame.dropped.trans hBalanced.dropped
  recorded := hSame.recorded.trans hBalanced.recorded
  failed := hSame.failed.trans hBalanced.failed
  counted := by
    intro code
    rw [hSame.tally]
    exact hBalanced.counted code
  capacity_eq := by
    rw [hSame.queue]
    exact hBalanced.capacity_eq
  bounded := by
    rw [hSame.queue]
    exact hBalanced.bounded
  keyed := hKeyed
  replies_subset := by
    rw [hSame.increments]
    exact hBalanced.replies_subset
  unfailing := hBalanced.unfailing

/- A visit of a code that was resolved is queued or dropped. -/
theorem visited
    (hBalanced : j.Balanced capacity rules replies)
    {code : String}
    {link : Link}
    {app : App}
    (hVisited : j.app.Visited code app)
    (hKeyed : app.links.store.Keyed) :
    (j.noteResolution code (.ok link) app).Balanced capacity
      rules replies where
  conserved := by
    intro other
    have hOld := hBalanced.conserved other
    rcases hVisited.offered with
      ⟨_, hQueue, hDropped⟩ | ⟨_, hQueue, hDropped⟩
    · simp only [noteResolution, hQueue, hDropped,
        Nat.add_sub_cancel_left, List.replicate_one,
        List.count_append]
      omega
    · simp only [noteResolution, hQueue, hDropped,
        Nat.sub_self, List.replicate_zero, List.append_nil,
        App.queued, List.count_append]
      omega
  resolves := by
    simp only [noteResolution, List.length_append,
      ← hBalanced.resolves]
    exact hVisited.resolves
  dropped := by
    simp only [noteResolution, List.length_append,
      List.length_replicate, ← hBalanced.dropped]
    rcases hVisited.offered with
      ⟨_, _, hDropped⟩ | ⟨_, _, hDropped⟩
    · omega
    · omega
  recorded := hVisited.recorded.trans hBalanced.recorded
  failed := hVisited.failed.trans hBalanced.failed
  counted := by
    intro other
    simp only [noteResolution, hVisited.tally]
    exact hBalanced.counted other
  capacity_eq := by
    rcases hVisited.offered with ⟨_, hQueue, _⟩ | ⟨_, hQueue, _⟩
    · simp only [noteResolution, hQueue]
      exact hBalanced.capacity_eq
    · simp only [noteResolution, hQueue]
      exact hBalanced.capacity_eq
  bounded := by
    rcases hVisited.offered with
      ⟨_, hQueue, _⟩ | ⟨hTaken, hQueue, _⟩
    · simp only [noteResolution, hQueue]
      exact hBalanced.bounded
    · have hRoom :
          j.app.queue.waiting.length < capacity := by
        rw [← hBalanced.capacity_eq]
        exact Nat.lt_of_not_le (not_or.mp hTaken).2
      simp only [noteResolution, hQueue, App.queued,
        List.length_append]
      exact hRoom
  keyed := hKeyed
  replies_subset := by
    simp only [noteResolution, hVisited.increments]
    exact hBalanced.replies_subset
  unfailing := hBalanced.unfailing

/- A resolution leaves the journal balanced. -/
theorem resolution
    (hBalanced : j.Balanced capacity rules replies)
    (code : String) :
    let run := (Shortener.resolve site.policy code).run w j.app
    (j.noteResolution code run.1 run.2).Balanced capacity rules
      replies := by
  intro run
  have hKeyed : run.2.links.store.Keyed :=
    Dialogue.run_keyed hBalanced.keyed _
  rcases Shortener.run_resolve_cases (w := w) site.policy code
      hBalanced.keyed with
    ⟨failure, hError, hSame⟩ | ⟨link, hOk, hVisited⟩
  · rw [hError]
    exact hBalanced.same hSame hKeyed
  · rw [hOk]
    exact hBalanced.visited hVisited hKeyed

/- So does an answer to an HTTP request. -/
theorem answer
    (hBalanced : j.Balanced capacity rules replies)
    (r : Request)
    (path : List Char) :
    (j.answer w site r path).Balanced capacity rules
      replies := by
  unfold Journal.answer
  dsimp only
  split
  · rename_i hFollows
    exact hBalanced.same
      (Dialogue.run_quiet (site.answer_quiet hFollows))
      (Dialogue.run_keyed hBalanced.keyed _)
  · rename_i code hFollows
    rcases site.answer_of_follows hFollows with ⟨f, hAnswer⟩
    rw [hAnswer, Dialogue.run_map]
    exact hBalanced.resolution code

/- So does recording the visits that wait. -/
theorem settle
    (hBalanced : j.Balanced capacity rules replies)
    (rest : Nat → Nat → Nat) :
    (j.settle rules rest).Balanced capacity rules
      replies := by
  have hBooks :=
    Worker.run_books rules rest j.app.queue.waiting
      j.app.counter
  have hCodes :=
    Worker.run_codes rules rest j.app.queue.waiting
      j.app.counter
  constructor
  case conserved =>
    intro code
    have hOld := hBalanced.conserved code
    have hCount := hCodes.count_eq code
    rw [List.count_append] at hCount
    simp only [Journal.settle, App.settle, VisitQueue.drain,
      List.count_append, List.count_nil]
    omega
  case resolves => exact hBalanced.resolves
  case dropped => exact hBalanced.dropped
  case recorded =>
    simp only [Journal.settle, App.settle, VisitQueue.drain,
      App.noteResults, List.length_append,
      Worker.recorded_eq, hBalanced.recorded]
  case failed =>
    simp only [Journal.settle, App.settle, VisitQueue.drain,
      App.noteResults, List.length_append,
      Worker.failed_eq, hBalanced.failed]
  case counted =>
    intro code
    have hCounted :=
      Worker.run_count rules rest j.app.queue.waiting
        j.app.counter code
    simp only [Journal.settle, App.settle, VisitQueue.drain,
      List.count_append, ← hBalanced.counted]
    exact hCounted
  case capacity_eq => exact hBalanced.capacity_eq
  case bounded => exact Nat.zero_le _
  case keyed => exact hBalanced.keyed
  case replies_subset =>
    exact List.Subset.trans hBooks.replies
      hBalanced.replies_subset
  case unfailing =>
    intro hReplies
    have hPrompt : j.app.counter.Prompt rules.limit :=
      fun reply hMem =>
        hReplies reply (hBalanced.replies_subset hMem)
    have hFailed :
        (Worker.run rules rest j.app.queue.waiting
          j.app.counter).failedCodes = [] :=
      Worker.run_well hPrompt j.app.queue.waiting
    simp only [Journal.settle, App.settle, VisitQueue.drain,
      hFailed, List.append_nil]
    exact hBalanced.unfailing hReplies

/- So does discarding them. -/
theorem close
    (hBalanced : j.Balanced capacity rules replies) :
    j.close.Balanced capacity rules replies where
  conserved := by
    intro code
    have hOld := hBalanced.conserved code
    simp only [Journal.close, VisitQueue.close,
      List.count_append, List.count_nil]
    omega
  resolves := hBalanced.resolves
  dropped := hBalanced.dropped
  recorded := hBalanced.recorded
  failed := hBalanced.failed
  counted := hBalanced.counted
  capacity_eq := hBalanced.capacity_eq
  bounded := Nat.zero_le _
  keyed := hBalanced.keyed
  replies_subset := hBalanced.replies_subset
  unfailing := hBalanced.unfailing

/- Every step leaves the journal balanced. -/
theorem step
    (hBalanced : j.Balanced capacity rules replies)
    (next : AppStep) :
    (j.step w site rules next).Balanced capacity rules
      replies := by
  cases next with
  | create request =>
      exact hBalanced.same
        (Dialogue.run_quiet
          (Shortener.create_quiet site.policy request))
        (Dialogue.run_keyed hBalanced.keyed _)
  | resolve code => exact hBalanced.resolution code
  | stats code =>
      exact hBalanced.same
        (Dialogue.run_quiet
          (Shortener.stats_quiet site.policy code))
        (Dialogue.run_keyed hBalanced.keyed _)
  | http r => exact hBalanced.answer r _
  | httpTrimmed r => exact hBalanced.answer r _
  | settle rest => exact hBalanced.settle rest
  | close => exact hBalanced.close

/- Every run does. -/
theorem run
    (hBalanced : j.Balanced capacity rules replies)
    (steps : List AppStep) :
    (j.run w site rules steps).Balanced capacity rules
      replies := by
  induction steps generalizing j with
  | nil => exact hBalanced
  | cons next steps ih => exact ih (hBalanced.step next)

end Balanced

end Journal

end UrlShortener

------------------------------------------------------------
-- Visits That Are Dropped
------------------------------------------------------------

namespace UrlShortener

namespace Journal

variable {w : Surroundings} {site : Site}
variable {rules : RecordingRules} {j : Journal}

@[simp] theorem noteResolution_app
    (code : String)
    (result : Except Failure Link)
    (app : App)
    (j : Journal) :
    (j.noteResolution code result app).app = app := by
  cases result with
  | error failure => rfl
  | ok link => rfl

/- Whatever is noted of it, a request is answered by a run. -/
theorem answer_app
    (r : Request)
    (path : List Char)
    (j : Journal) :
    (j.answer w site r path).app =
      ((site.answer r path).run w j.app).2 := by
  unfold answer
  dsimp only
  split
  · rfl
  · exact noteResolution_app _ _ _ _

/- A resolution drops a visit only if the queue refuses it. -/
theorem refuses_of_resolution
    (hKeyed : j.app.links.store.Keyed)
    {code : String}
    (hDropped :
      ((Shortener.resolve site.policy code).run w
          j.app).2.metrics.visitsDropped ≠
        j.app.metrics.visitsDropped) :
    j.app.Refuses := by
  rcases Shortener.run_resolve_cases (w := w) site.policy code
      hKeyed with
    ⟨failure, _, hSame⟩ | ⟨link, _, hVisited⟩
  · exact absurd hSame.dropped hDropped
  · rcases hVisited.offered with
      ⟨hRefuses, _⟩ | ⟨_, _, hKept⟩
    · exact hRefuses
    · exact absurd hKept hDropped

/- So does an HTTP request. -/
theorem refuses_of_answer
    (hKeyed : j.app.links.store.Keyed)
    {r : Request}
    {path : List Char}
    (hDropped :
      (j.answer w site r path).app.metrics.visitsDropped ≠
        j.app.metrics.visitsDropped) :
    j.app.Refuses := by
  unfold answer at hDropped
  dsimp only at hDropped
  split at hDropped
  · rename_i hFollows
    have hSame :=
      Dialogue.run_quiet (w := w) (s := j.app)
        (site.answer_quiet hFollows)
    exact absurd hSame.dropped hDropped
  · rename_i code hFollows
    rcases site.answer_of_follows hFollows with ⟨f, hAnswer⟩
    rw [noteResolution_app, hAnswer, Dialogue.run_map]
      at hDropped
    exact refuses_of_resolution hKeyed hDropped

/- No step drops a visit unless the queue refuses it. -/
theorem refuses_of_dropped
    (hKeyed : j.app.links.store.Keyed)
    {next : AppStep}
    (hDropped :
      (j.step w site rules next).app.metrics.visitsDropped ≠
        j.app.metrics.visitsDropped) :
    j.app.Refuses := by
  cases next with
  | create request =>
      have hSame :=
        Dialogue.run_quiet (w := w) (s := j.app)
          (Shortener.create_quiet site.policy request)
      exact absurd hSame.dropped hDropped
  | resolve code =>
      apply refuses_of_resolution hKeyed
      simpa only [step, resolve, noteResolution_app]
        using hDropped
  | stats code =>
      have hSame :=
        Dialogue.run_quiet (w := w) (s := j.app)
          (Shortener.stats_quiet site.policy code)
      exact absurd hSame.dropped hDropped
  | http r => exact refuses_of_answer hKeyed hDropped
  | httpTrimmed r => exact refuses_of_answer hKeyed hDropped
  | settle rest => exact absurd rfl hDropped
  | close => exact absurd rfl hDropped

end Journal

end UrlShortener

------------------------------------------------------------
-- Conservation
------------------------------------------------------------

namespace UrlShortener

/- Reading a count in time tells the count of the tally. -/
theorem Shortener.run_stats_of_prompt
    {w : Surroundings}
    {policy : Policy}
    {s : App}
    (hPrompt :
      s.beginCount.1.within policy.storeTimeout = some none)
    (code : String) :
    ((stats policy code).run w s).1 =
      .ok (s.counter.tally.count code) := by
  simp only [stats, Dialogue.run, hPrompt,
    CounterBackend.endGet, Option.map_some]
  rfl

namespace Journal

namespace Balanced

variable {rules : RecordingRules} {capacity : Nat}
variable {replies : List (Reply CounterFault)} {j : Journal}

/- The totals of visits, as a whole. -/
theorem total
    (hBalanced : j.Balanced capacity rules replies) :
    j.app.metrics.resolves =
      j.app.metrics.visitsDropped +
        j.app.metrics.visitsRecorded +
        j.app.metrics.visitsFailed +
        j.app.queue.waiting.length + j.discarded.length := by
  have hPerm :
      j.resolved.Perm
        (j.dropped ++ j.recorded ++ j.failed ++
          j.app.queue.waiting ++ j.discarded) := by
    apply List.perm_iff_count.mpr
    intro code
    simp only [List.count_append]
    exact hBalanced.conserved code
  have hLength := hPerm.length_eq
  simp only [List.length_append] at hLength
  rw [hBalanced.resolves, hBalanced.dropped,
    hBalanced.recorded, hBalanced.failed]
  exact hLength

/-
  Where no visit was lost and none waits, every code was
  counted as often as it was resolved.
-/
theorem count_eq_of_settled
    (hBalanced : j.Balanced capacity rules replies)
    (hFailed : j.app.metrics.visitsFailed = 0)
    (hDropped : j.app.metrics.visitsDropped = 0)
    (hDiscarded : j.discarded = [])
    (hWaiting : j.app.queue.waiting = [])
    (code : String) :
    j.app.counter.tally.count code =
      j.resolved.count code := by
  rw [hBalanced.failed, List.length_eq_zero_iff] at hFailed
  rw [hBalanced.dropped, List.length_eq_zero_iff] at hDropped
  rw [hBalanced.counted, hBalanced.conserved, hFailed,
    hDropped, hDiscarded, hWaiting]
  simp only [List.count_nil]
  omega

end Balanced

/-
  Whatever the service was asked to do since its start, for
  any replies of its backends: the visits resolved are those
  dropped, recorded, given up, waiting and discarded, in all
  and for every code; no more of them wait than the queue has
  places; one is dropped only by a queue that is full or
  closed; and every code is counted as often as it was
  recorded. If the counter always answers in time and without
  a fault, no visit fails; and where none has failed, been
  dropped or discarded, the count that is told of a code once
  the visits are recorded is the number of its resolutions.
-/
theorem visits_are_conserved
    (w : Surroundings)
    (site : Site)
    (rules : RecordingRules)
    (minter : Minter)
    (capacity : Nat)
    (scripts : Scripts)
    (steps : List AppStep) :
    let j :=
      (start (App.scripted minter capacity scripts)).run w site
        rules steps
    let m := j.app.metrics
    let waiting := j.app.queue.waiting
    m.resolves =
        m.visitsDropped + m.visitsRecorded + m.visitsFailed +
          waiting.length + j.discarded.length ∧
    (∀ code,
      j.resolved.count code =
        j.dropped.count code + j.recorded.count code +
          j.failed.count code + waiting.count code +
          j.discarded.count code) ∧
    m.resolves = j.resolved.length ∧
    m.visitsDropped = j.dropped.length ∧
    m.visitsRecorded = j.recorded.length ∧
    m.visitsFailed = j.failed.length ∧
    waiting.length ≤ capacity ∧
    (∀ next,
      (j.step w site rules next).app.metrics.visitsDropped ≠
          m.visitsDropped →
        j.app.queue.closed = true ∨
          waiting.length = capacity) ∧
    (∀ code,
      j.app.counter.tally.count code =
        j.recorded.count code) ∧
    ((∀ reply ∈ scripts.increments,
      reply.within rules.limit = some none) →
        m.visitsFailed = 0) ∧
    ∀ rest code,
      let after := j.step w site rules (.settle rest)
      after.app.metrics.visitsFailed = 0 →
      after.app.metrics.visitsDropped = 0 →
      after.discarded = [] →
      after.app.beginCount.1.within site.policy.storeTimeout =
          some none →
        ((Shortener.stats site.policy code).run w
            after.app).1 =
          .ok (after.resolved.count code) := by
  intro j m waiting
  have hBalanced :
      j.Balanced capacity rules scripts.increments :=
    (balanced_start minter capacity scripts rules).run steps
  refine ⟨hBalanced.total, hBalanced.conserved,
    hBalanced.resolves, hBalanced.dropped, hBalanced.recorded,
    hBalanced.failed, hBalanced.bounded, ?_,
    hBalanced.counted, ?_, ?_⟩
  · intro next hDropped
    rcases refuses_of_dropped hBalanced.keyed hDropped with
      hClosed | hFull
    · exact Or.inl hClosed
    · rw [hBalanced.capacity_eq] at hFull
      exact Or.inr (Nat.le_antisymm hBalanced.bounded hFull)
  · intro hReplies
    rw [hBalanced.failed, hBalanced.unfailing hReplies]
    rfl
  · intro rest code after hFailed hDropped hDiscarded hPrompt
    have hAfter :
        after.Balanced capacity rules scripts.increments :=
      hBalanced.step (.settle rest)
    rw [Shortener.run_stats_of_prompt hPrompt code,
      hAfter.count_eq_of_settled hFailed hDropped hDiscarded
        rfl code]

end Journal

end UrlShortener
