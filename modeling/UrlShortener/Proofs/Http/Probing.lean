import UrlShortener.Proofs.App.Lifetime
import UrlShortener.Proofs.Backend.Ping
import UrlShortener.Proofs.Http.LookUps

/-
  Health probes are exact. The two pings of a probe go on at
  once, each under a deadline of its own, while the service
  goes on as well; the queue is looked at when both pings
  are over. Each check tells how its own part of the service
  does, whatever the others do, and the probe changes
  nothing. Once the store or the queue is closed, all probes
  fail.

  Key definitions include:
    * `Response.part?`
    * `Response.Reports`
    * `Probe`
    * `Probe.answer`
    * `Probe.joined`

  Main declarations:
    * `Health.response_reports`
    * `Probe.joined_eq`
    * `Probe.answer_reports`
    * `Health.probe_endsAt`
    * `Health.probe_of_closed`
    * `Site.probes_are_exact`
-/

------------------------------------------------------------
-- Reports
------------------------------------------------------------

namespace UrlShortener

namespace Response

/- The part of a body that names of fields lead to. -/
def part? (a : Response) (names : List String) : Option Json :=
  names.foldl
    (fun part name => part.bind fun v => v.field? name) a.body

/- What is told of a part of the service. -/
def check? (a : Response) (name : String) : Option Json :=
  a.part? ["checks", name]

/- A text that stands in a body. -/
def Says
    (a : Response)
    (names : List String)
    (text : String) : Prop :=
  a.part? names = some (.text text)

/- Of a part of the service, it is told whether it does well. -/
structure Tells
    (a : Response)
    (name : String)
    (well : Prop) : Prop where
  ok_iff : a.Says ["checks", name, "status"] "ok" ↔ well
  error_iff :
    a.Says ["checks", name, "status"] "error" ↔ ¬ well

/-
  An answer that reports on the parts of the service, on
  each by its own check and on all of them by its status.
-/
structure Reports
    (a : Response)
    (store counter queue : Prop) : Prop where
  well : store ∧ counter ∧ queue → a.status = 200
  unwell : ¬ (store ∧ counter ∧ queue) → a.status = 503
  ok_iff : a.Says ["status"] "ok" ↔ store ∧ counter ∧ queue
  store : a.Tells "store" store
  counter : a.Tells "counter" counter
  queue : a.Tells "visit_queue" queue

end Response

namespace Response

variable {a : Response} {name : String} {c : Check}

/- A check tells whether it is healthy. -/
theorem tells_of_check
    (hCheck : a.check? name = some c.json) :
    a.Tells name (c.healthy = true) := by
  have hStatus :
      a.part? ["checks", name, "status"] =
        some (.text (if c.healthy then "ok" else "error")) := by
    change (a.check? name).bind (fun v => v.field? "status") = _
    rw [hCheck]
    rfl
  constructor
  case ok_iff =>
    rw [Says, hStatus]
    cases c.healthy <;> simp
  case error_iff =>
    rw [Says, hStatus]
    cases c.healthy <;> simp

end Response

namespace Health

variable (store counter queue : Check)

theorem response_store :
    (response store counter queue).check? "store" =
      some store.json :=
  rfl

theorem response_counter :
    (response store counter queue).check? "counter" =
      some counter.json :=
  rfl

theorem response_queue :
    (response store counter queue).check? "visit_queue" =
      some queue.json :=
  rfl

/- The answer to three checks reports on their parts. -/
theorem response_reports :
    (response store counter queue).Reports
      (store.healthy = true) (counter.healthy = true)
      (queue.healthy = true) := by
  have hStatus (well : Bool)
      (hWell :
        (store.healthy && counter.healthy && queue.healthy) =
          well) :
      (response store counter queue).status =
          (if well then 200 else 503) ∧
        (response store counter queue).part? ["status"] =
          some (.text
            (if well then "ok" else "unavailable")) := by
    rw [← hWell]
    exact ⟨rfl, rfl⟩
  have hAll :
      (store.healthy = true ∧ counter.healthy = true ∧
          queue.healthy = true) ↔
        (store.healthy && counter.healthy && queue.healthy) =
          true := by
    rw [Bool.and_eq_true, Bool.and_eq_true, and_assoc]
  constructor
  case well =>
    intro hWell
    exact (hStatus true (hAll.mp hWell)).1
  case unwell =>
    intro hUnwell
    rw [hAll, Bool.not_eq_true] at hUnwell
    exact (hStatus false hUnwell).1
  case ok_iff =>
    rw [Response.Says, hAll, (hStatus _ rfl).2]
    cases store.healthy && counter.healthy && queue.healthy <;>
      simp
  case store =>
    exact Response.tells_of_check
      (response_store store counter queue)
  case counter =>
    exact Response.tells_of_check
      (response_counter store counter queue)
  case queue =>
    exact Response.tells_of_check
      (response_queue store counter queue)

end Health

end UrlShortener

------------------------------------------------------------
-- Checks
------------------------------------------------------------

namespace UrlShortener

namespace Health

/- The store does well just if its ping was answered so. -/
theorem storeCheck_healthy_iff
    (limit : Nat)
    {heard : Option (Except StoreFault Unit)} :
    (storeCheck limit heard).healthy = true ↔
      heard = some (.ok ()) := by
  rcases heard with _ | fault | result
  · exact iff_of_false Bool.false_ne_true nofun
  · exact iff_of_false Bool.false_ne_true nofun
  · exact iff_of_true rfl rfl

theorem counterCheck_healthy_iff
    (limit : Nat)
    {heard : Option (Except CounterFault Unit)} :
    (counterCheck limit heard).healthy = true ↔
      heard = some (.ok ()) := by
  rcases heard with _ | fault | result
  · exact iff_of_false Bool.false_ne_true nofun
  · exact iff_of_false Bool.false_ne_true nofun
  · exact iff_of_true rfl rfl

/- The queue does well just if it is open. -/
theorem queueCheck_healthy_iff {s : App} :
    (queueCheck s.places).healthy = true ↔
      s.queue.closed = false := by
  unfold App.places
  cases s.queue.closed with
  | true => exact iff_of_false Bool.false_ne_true nofun
  | false => exact iff_of_true rfl rfl

end Health

/- A store that is asked in time answers if it is open. -/
theorem StoreBackend.endPing_eq_ok_iff
    {b : StoreBackend}
    {came : Option (Option StoreFault)} :
    b.endPing came = some (.ok ()) ↔
      came = some none ∧ b.store.closed = false := by
  rcases came with _ | _ | fault
  · exact iff_of_false nofun (nomatch ·.1)
  · unfold endPing LinkStore.ping
    cases b.store.closed with
    | true => exact iff_of_false nofun (nomatch ·.2)
    | false => exact iff_of_true rfl ⟨rfl, rfl⟩
  · exact iff_of_false nofun (nomatch ·.1)

/- Nothing of a store matters to its ping but that. -/
theorem StoreBackend.endPing_congr
    {b b' : StoreBackend}
    (hClosed : b'.store.closed = b.store.closed)
    (came : Option (Option StoreFault)) :
    b'.endPing came = b.endPing came := by
  unfold endPing LinkStore.ping
  rw [hClosed]

theorem CounterBackend.endPing_eq_ok_iff
    {came : Option (Option CounterFault)} :
    endPing came = some (.ok ()) ↔ came = some none := by
  rcases came with _ | _ | fault
  · exact iff_of_false nofun nofun
  · exact iff_of_true rfl rfl
  · exact iff_of_false nofun nofun

end UrlShortener

------------------------------------------------------------
-- Probes
------------------------------------------------------------

namespace UrlShortener

/-
  A probe under way: its limit, how its pings are replied
  to, and the states that it may meet, one for every
  millisecond since it began.
-/
structure Probe where
  limit : Nat
  ofStore : Reply StoreFault
  ofCounter : Reply CounterFault
  states : Nat → App

namespace Probe

/- The probe that begins in a state. -/
def begun (limit : Nat) (s : App) (states : Nat → App) : Probe :=
  { limit, ofStore := s.beginProbe.1.1
    ofCounter := s.beginProbe.1.2, states }

variable (p : Probe)

/- How long it takes until both pings are over. -/
def lasts : Nat :=
  max (p.ofStore.wait p.limit) (p.ofCounter.wait p.limit)

/- What the store answers to its ping in a state. -/
def ask (s : App) : Option (Except StoreFault Unit) :=
  s.links.endPing (p.ofStore.within p.limit)

/- What the store's ping is answered, when it is over. -/
def storeHeard : Option (Except StoreFault Unit) :=
  p.ask (p.states (p.ofStore.wait p.limit))

/- What the counter's ping is answered. -/
def counterHeard : Option (Except CounterFault Unit) :=
  CounterBackend.endPing (p.ofCounter.within p.limit)

/- What the probe tells of the store's answer and a queue. -/
def tell
    (heard : Option (Except StoreFault Unit))
    (free : Option Nat) : Response :=
  Health.response (Health.storeCheck p.limit heard)
    (Health.counterCheck p.limit p.counterHeard)
    (Health.queueCheck free)

/- What the probe answers. -/
def answer : Response :=
  p.tell p.storeHeard (p.states p.lasts).places

/- The store answers its ping in time, and is open then. -/
def StoreFine : Prop :=
  ∃ after ≤ p.limit, p.ofStore = .answers after none ∧
    (p.states after).links.store.closed = false

/- The counter answers its ping in time. -/
def CounterFine : Prop :=
  ∃ after ≤ p.limit, p.ofCounter = .answers after none

/- The queue is open when both pings are over. -/
def QueueFine : Prop :=
  (p.states p.lasts).queue.closed = false

/-
  What is heard of both pings by those who look at them
  every millisecond before a time.
-/
def joined (elapsed : Nat) :
    Option
      (Option (Except StoreFault Unit) ×
        Option (Except CounterFault Unit)) :=
  match Ping.polled p.limit p.ofStore elapsed,
    Ping.polled p.limit p.ofCounter elapsed with
  | .ended time came, .ended _ came' =>
      some
        ((p.states time).links.endPing came,
          CounterBackend.endPing came')
  | _, _ => none

/- No probe takes longer than its limit. -/
theorem lasts_le : p.lasts ≤ p.limit :=
  Nat.max_le.mpr ⟨Reply.wait_le _ _, Reply.wait_le _ _⟩

/- Both pings have been answered just when both are over. -/
theorem joined_eq (elapsed : Nat) :
    p.joined elapsed =
      if p.lasts < elapsed then
        some (p.storeHeard, p.counterHeard)
      else
        none := by
  simp only [joined, Ping.polled_eq, lasts, Nat.max_lt]
  by_cases hStore : p.ofStore.wait p.limit < elapsed
  · by_cases hCounter : p.ofCounter.wait p.limit < elapsed
    · simp only [hStore, hCounter, and_self, if_true]
      rfl
    · simp only [hStore, hCounter, and_false, if_true, if_false]
  · simp only [hStore, false_and, if_false]

theorem storeFine_iff :
    p.StoreFine ↔ p.storeHeard = some (.ok ()) := by
  rw [storeHeard, ask, StoreBackend.endPing_eq_ok_iff,
    Reply.within_eq_some_iff, StoreFine]
  constructor
  · rintro ⟨after, hTime, hReply, hOpen⟩
    refine ⟨⟨after, hReply, hTime⟩, ?_⟩
    rw [hReply, Reply.wait_of_answers hTime]
    exact hOpen
  · rintro ⟨⟨after, hReply, hTime⟩, hOpen⟩
    rw [hReply, Reply.wait_of_answers hTime] at hOpen
    exact ⟨after, hTime, hReply, hOpen⟩

theorem counterFine_iff :
    p.CounterFine ↔ p.counterHeard = some (.ok ()) := by
  rw [counterHeard, CounterBackend.endPing_eq_ok_iff,
    Reply.within_eq_some_iff, CounterFine]
  exact exists_congr fun after => and_comm

/- The answer reports how each part does. -/
theorem answer_reports :
    p.answer.Reports p.StoreFine p.CounterFine p.QueueFine := by
  rw [storeFine_iff, counterFine_iff, QueueFine,
    ← Health.storeCheck_healthy_iff p.limit,
    ← Health.counterCheck_healthy_iff p.limit,
    ← Health.queueCheck_healthy_iff]
  exact Health.response_reports _ _ _

variable {p} {q : Probe}

/- What is told of the store depends on the store alone. -/
theorem check_store_congr
    (hLimit : q.limit = p.limit)
    (hReply : q.ofStore = p.ofStore)
    (hClosed :
      let time := p.ofStore.wait p.limit
      (q.states time).links.store.closed =
        (p.states time).links.store.closed) :
    q.answer.check? "store" = p.answer.check? "store" := by
  have hHeard : q.storeHeard = p.storeHeard := by
    rw [storeHeard, ask, hLimit, hReply]
    exact StoreBackend.endPing_congr hClosed _
  rw [answer, answer, tell, tell, Health.response_store,
    Health.response_store, hLimit, hHeard]

/- What is told of the counter depends on its ping alone. -/
theorem check_counter_congr
    (hLimit : q.limit = p.limit)
    (hReply : q.ofCounter = p.ofCounter) :
    q.answer.check? "counter" = p.answer.check? "counter" := by
  rw [answer, answer, tell, tell, Health.response_counter,
    Health.response_counter, counterHeard, counterHeard, hLimit,
    hReply]

/- What is told of the queue depends on its places alone. -/
theorem check_queue_congr
    (hPlaces :
      (q.states q.lasts).places = (p.states p.lasts).places) :
    q.answer.check? "visit_queue" =
      p.answer.check? "visit_queue" := by
  rw [answer, answer, tell, tell, Health.response_queue,
    Health.response_queue, hPlaces]

/- No probe goes well once the store or the queue is closed. -/
theorem status_of_closed
    {w : Surroundings}
    {s : App}
    (hClosed :
      s.links.store.closed = true ∨ s.queue.closed = true)
    (hStates : ∀ t, s.Reaches w (p.states t)) :
    p.answer.status = 503 := by
  refine p.answer_reports.unwell ?_
  rintro ⟨⟨after, _, _, hStore⟩, _, hQueue⟩
  rcases hClosed with hClosed | hClosed
  · have hStill := (hStates after).keepsClosed.store hClosed
    rw [hStore] at hStill
    cases hStill
  · have hStill := (hStates p.lasts).keepsClosed.queue hClosed
    rw [hQueue] at hStill
    cases hStill

end Probe

end UrlShortener

------------------------------------------------------------
-- Probes That Run
------------------------------------------------------------

namespace UrlShortener

/-
  Who waits for two pings asks the one backend when its ping
  is over, and goes on when both are.
-/
theorem Wait.forPings_endsAt
    {α β : Type}
    {w : Surroundings}
    {states : Nat → App}
    {now first both : Nat}
    {s : App}
    {ask : App → β}
    {next : β → Dialogue α}
    {result : α}
    (hFirst : first ≤ both)
    (hStart : states now = s)
    (hEnds :
      (next (ask (states (now + first)))).advance w (now + both)
          (states (now + both)) =
        (.ended result, states (now + both))) :
    (Standing.waiting
        (forPings now first both s ask next)).EndsAt w states
      now (now + both) result := by
  have hLater : now ≤ now + both := Nat.le_add_right now both
  unfold forPings
  dsimp only
  split
  · rename_i hNow
    rw [hNow, Nat.add_zero, hStart] at hEnds
    exact .went hLater rfl hEnds .ended
  · split
    · rename_i hBoth
      rw [hBoth] at hEnds
      exact .went hLater rfl hEnds .ended
    · exact .looked (Nat.le_add_right now first)
        (.went (Nat.add_le_add_left hFirst now) rfl hEnds .ended)

namespace Health

variable {w : Surroundings} {now : Nat} {s : App}

/-
  A probe waits for its pings alone: it ends when both are
  over, by what it hears of them and finds of the queue then.
-/
theorem probe_endsAt
    (limit : Nat)
    {states : Nat → App}
    (hStart : states now = s.beginProbe.2) :
    let p := Probe.begun limit s fun t => states (now + t)
    ∃ standing,
      (probe limit).advance w now s =
          (standing, s.beginProbe.2) ∧
        standing.EndsAt w states now (now + p.lasts)
          p.answer := by
  intro p
  have hAdvance :
      (probe limit).advance w now s =
        if p.lasts = 0 then
          (.ended
            (p.tell (p.ask s.beginProbe.2)
              s.beginProbe.2.places),
            s.beginProbe.2)
        else
          (.waiting
            (.forPings now (p.ofStore.wait p.limit) p.lasts
              s.beginProbe.2 p.ask fun heard =>
                .places fun free => .done (p.tell heard free)),
            s.beginProbe.2) := rfl
  -- Pings that are over at once are not waited for.
  by_cases hAtOnce : p.lasts = 0
  · have hWait : p.ofStore.wait p.limit = 0 :=
      (Nat.max_eq_zero_iff.mp hAtOnce).1
    have hNow : p.states 0 = s.beginProbe.2 := hStart
    have hAnswer :
        p.answer =
          p.tell (p.ask s.beginProbe.2)
            s.beginProbe.2.places := by
      rw [Probe.answer, Probe.storeHeard, hWait, hAtOnce, hNow]
    rw [hAdvance, if_pos hAtOnce, hAnswer, hAtOnce]
    exact ⟨_, rfl, .ended⟩
  · rw [hAdvance, if_neg hAtOnce]
    exact ⟨_, rfl,
      Wait.forPings_endsAt (Nat.le_max_left _ _) hStart rfl⟩

/- A probe that runs alone answers for the state it is in. -/
theorem run_probe (limit : Nat) :
    (probe limit).run w s =
      ((Probe.begun limit s fun _ => s.beginProbe.2).answer,
        s.beginProbe.2) :=
  rfl

end Health

/- All that a probe changes are the pings that will follow. -/
theorem App.beginProbe_eq (s : App) :
    s.beginProbe.2 =
      { s with
          links :=
            { s.links with pings := s.links.pings.drop 1 }
          counter :=
            { s.counter with
                pings := s.counter.pings.drop 1 } } := by
  simp only [beginProbe, StoreBackend.beginPing,
    CounterBackend.beginPing, Reply.next_eq]

theorem App.reaches_beginProbe
    (w : Surroundings)
    (s : App) : s.Reaches w s.beginProbe.2 :=
  .single (.awaited rfl rfl)

/-
  Whatever has happened since the store or the queue was
  closed, a probe fails.
-/
theorem Health.probe_of_closed
    {w : Surroundings}
    {s s' : App}
    (hClosed :
      s.links.store.closed = true ∨ s.queue.closed = true)
    (hReaches : s.Reaches w s')
    (limit : Nat) :
    ((probe limit).run w s').1.status = 503 := by
  rw [run_probe]
  exact Probe.status_of_closed hClosed fun _ =>
    hReaches.trans (App.reaches_beginProbe w s')

theorem Journal.probe_of_closed
    {w : Surroundings}
    {site : Site}
    {rules : RecordingRules}
    {j : Journal}
    (hClosed :
      j.app.links.store.closed = true ∨
        j.app.queue.closed = true)
    (steps : List AppStep)
    (limit : Nat) :
    ((Health.probe limit).run w
        (j.run w site rules steps).app).1.status = 503 :=
  Health.probe_of_closed hClosed (run_reaches j steps) limit

theorem Traffic.probe_of_closed
    {c : Conditions}
    {t : Traffic}
    (hClosed :
      t.app.links.store.closed = true ∨
        t.app.queue.closed = true)
    (moves : List TrafficMove)
    (limit : Nat) :
    ((Health.probe limit).run c.surroundings
        (t.run c moves).app).1.status = 503 :=
  Health.probe_of_closed hClosed (run_reaches t moves) limit

end UrlShortener

------------------------------------------------------------
-- Requests For A Probe
------------------------------------------------------------

namespace UrlShortener

namespace Site

variable {site : Site} {trims : Bool} {r : Request}

/- A probe is what such a request is answered by. -/
theorem respond_of_healthz
    (hMethod : r.method = "GET")
    (hPath : seen trims r = "/healthz".toList) :
    site.respond trims r = Health.probe site.healthTimeout := by
  have hRoute :
      Route.ofPath? "/healthz".toList = some .health := by
    decide
  rw [respond_eq, hPath, answer, hRoute]
  dsimp only
  rw [reading, if_pos hMethod]

/-
  In every state, and whatever happens to the service since,
  a probe ends when both of its pings are over, each by its
  answer or by the limit since the request began: no later
  than at that limit, and just when those who look at both
  all the time have heard of both. It answers 200 if the
  store's ping came in time and found it open, the counter's
  came in time and the queue is open at the end, and 503
  otherwise; and it tells of each of the three by its own
  check, and by its status of all of them. But for the
  replies to its own pings, it leaves the service as it is.

  What another probe of the same limit tells of a part is
  the same if that part did the same, whatever the others
  did. In particular, states that differ in a part alone are
  told alike of the others.

  After the store or the queue was closed, every probe
  answers 503.
-/
theorem probes_are_exact
    (site : Site)
    (trims : Bool)
    {r : Request}
    (hMethod : r.method = "GET")
    (hPath : seen trims r = "/healthz".toList)
    (w : Surroundings)
    (now : Nat)
    (s : App)
    (life : Lifetime w now s.beginProbe.2) :
    let d := site.respond trims r
    let p :=
      Probe.begun site.healthTimeout s
        fun t => life.states (now + t)
    (∃ standing,
      d.advance w now s = (standing, s.beginProbe.2) ∧
        standing.EndsAt w life.states now (now + p.lasts)
          p.answer) ∧
    p.lasts ≤ site.healthTimeout ∧
    (∀ elapsed,
      p.joined elapsed =
        if p.lasts < elapsed then
          some (p.storeHeard, p.counterHeard)
        else
          none) ∧
    p.answer.Reports p.StoreFine p.CounterFine p.QueueFine ∧
    d.run w s =
      ((Probe.begun site.healthTimeout s
          fun _ => s.beginProbe.2).answer,
        s.beginProbe.2) ∧
    s.beginProbe.2 =
      { s with
          links :=
            { s.links with pings := s.links.pings.drop 1 }
          counter :=
            { s.counter with
                pings := s.counter.pings.drop 1 } } ∧
    (∀ q : Probe, q.limit = p.limit →
      (q.ofStore = p.ofStore →
        (let time := p.ofStore.wait p.limit
        (q.states time).links.store.closed =
          (p.states time).links.store.closed) →
          q.answer.check? "store" = p.answer.check? "store") ∧
      (q.ofCounter = p.ofCounter →
        q.answer.check? "counter" =
          p.answer.check? "counter") ∧
      ((q.states q.lasts).places = (p.states p.lasts).places →
        q.answer.check? "visit_queue" =
          p.answer.check? "visit_queue")) ∧
    (∀ s' : App,
      let a := (d.run w s).1
      let a' := (d.run w s').1
      (s'.links = s.links →
        a'.check? "store" = a.check? "store") ∧
      (s'.counter = s.counter →
        a'.check? "counter" = a.check? "counter") ∧
      (s'.queue = s.queue →
        a'.check? "visit_queue" = a.check? "visit_queue")) ∧
    ∀ s₀ : App,
      s₀.links.store.closed = true ∨ s₀.queue.closed = true →
      s₀.Reaches w s →
        p.answer.status = 503 ∧ (d.run w s).1.status = 503 := by
  intro d p
  have hProbe : d = Health.probe site.healthTimeout :=
    respond_of_healthz hMethod hPath
  have hRun (s : App) :
      d.run w s =
        ((Probe.begun site.healthTimeout s
            fun _ => s.beginProbe.2).answer,
          s.beginProbe.2) := by
    rw [hProbe, Health.run_probe]
  refine ⟨?_, p.lasts_le, p.joined_eq, p.answer_reports,
    hRun s, s.beginProbe_eq, ?_, ?_, ?_⟩
  · rw [hProbe]
    exact Health.probe_endsAt _ life.start
  · intro q hLimit
    exact ⟨Probe.check_store_congr hLimit,
      Probe.check_counter_congr hLimit,
      Probe.check_queue_congr⟩
  · intro s'
    rw [hRun, hRun]
    refine ⟨?_, ?_, ?_⟩
    · intro hLinks
      refine Probe.check_store_congr rfl ?_ ?_
      · exact congrArg (fun b => b.beginPing.1) hLinks
      · exact congrArg (fun b => b.store.closed) hLinks
    · intro hCounter
      refine Probe.check_counter_congr rfl ?_
      exact congrArg (fun b => b.beginPing.1) hCounter
    · intro hQueue
      refine Probe.check_queue_congr ?_
      change s'.places = s.places
      rw [App.places, App.places, hQueue]
  · intro s₀ hClosed hReaches
    have hBegun : s₀.Reaches w s.beginProbe.2 :=
      hReaches.trans (App.reaches_beginProbe w s)
    refine ⟨Probe.status_of_closed hClosed fun t =>
      hBegun.trans (life.reaches t), ?_⟩
    rw [hProbe]
    exact Health.probe_of_closed hClosed hReaches _

/-
  A store that answers right at the limit does well, and a
  queue that was closed in the meantime does not.
-/
theorem sample_probe_is_exact :
    let site : Site := ⟨.usual, 200⟩
    let w : Surroundings := ⟨fun n => ⟨0, n, 0⟩, fun _ _ => 0⟩
    let s :=
      { App.init (.listed []) 1 with
          links := { StoreBackend.fresh with pings := [.late 200] } }
    let r : Request := ⟨"GET", "//healthz/?q=1", [], []⟩
    let closed :=
      { s.beginProbe.2 with queue := s.beginProbe.2.queue.close }
    ∃ life : Lifetime w 0 s.beginProbe.2,
      life.states 101 = closed ∧
      ∃ standing a,
        (site.respond true r).advance w 0 s =
            (standing, s.beginProbe.2) ∧
          standing.EndsAt w life.states 0 200 a ∧
          a.status = 503 ∧
          a.Says ["checks", "store", "status"] "ok" ∧
          a.Says ["checks", "visit_queue", "status"]
            "error" := by
  intro site w s r closed
  let life : Lifetime w 0 s.beginProbe.2 :=
    .once (.single (.closedQueue _)) 0 100
  rcases probes_are_exact site true (r := r) rfl (by decide) w 0
      s life with
    ⟨⟨standing, hAdvance, hEnds⟩, _, _, hReports, _⟩
  refine ⟨life, rfl, standing, _, hAdvance, hEnds, ?_, ?_, ?_⟩
  · exact hReports.unwell (nomatch ·.2.2)
  · exact hReports.store.ok_iff.mpr
      ⟨200, Nat.le_refl _, rfl, rfl⟩
  · exact hReports.queue.error_iff.mpr nofun

end Site

end UrlShortener
