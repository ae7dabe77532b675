import UrlShortener.Proofs.App.Discretion
import UrlShortener.Proofs.App.Permanence

/-
  Expired links never show. To those who only read, a link
  that has expired is a link that never was: the service
  answers them alike, queues the same visits and counts the
  same totals.

  The proof goes along two runs at once. They stay apart by
  the expired links alone, and by how often the clock was
  read: it is read for a link that was found, and not for a
  code that is unknown.

  Key definitions include:
    * `LinkStore.AddsExpired`
    * `App.AddsExpired`
    * `Arrival`
    * `Site.receiveAll`

  Main declarations:
    * `Dialogue.run_addsExpired`
    * `Shortener.resolve_addsExpired`
    * `Site.clock_read_once`
    * `Site.receive_addsExpired`
    * `Site.expired_links_never_show`
-/

------------------------------------------------------------
-- Stores With Expired Links
------------------------------------------------------------

namespace UrlShortener

/-
  The second store holds the links of the first one, and
  besides them only links that have expired by a time.
-/
structure LinkStore.AddsExpired
    (now : Timestamp)
    (s s' : LinkStore) : Prop where
  closed : s'.closed = s.closed
  kept :
    ∀ {code link}, s.get? code = some link →
      s'.get? code = some link
  expired :
    ∀ {code link}, s.get? code = none →
      s'.get? code = some link → link.expiredAt now = true

namespace LinkStore.AddsExpired

variable {now : Timestamp} {s s' : LinkStore}
variable {b b' : StoreBackend}

/- Any number of expired links may be added. -/
theorem append
    (s : LinkStore)
    {old : List (String × Link)}
    (hOld : ∀ b ∈ old, b.2.expiredAt now = true) :
    s.AddsExpired now
      { s with bindings := s.bindings ++ old } where
  closed := rfl
  kept := by
    intro code link hFound
    unfold get? at hFound ⊢
    rw [List.find?_append, Option.map_or, hFound,
      Option.some_or]
  expired := by
    intro code link hNone hFound
    unfold get? at hNone hFound
    rw [List.find?_append, Option.map_or, hNone,
      Option.none_or, Option.map_eq_some_iff] at hFound
    rcases hFound with ⟨b, hFind, rfl⟩
    exact hOld b (List.mem_of_find?_eq_some hFind)

/-
  A look-up finds the same, or an expired link in place of
  none.
-/
theorem find_cases
    (hAdds : s.AddsExpired now s')
    (code : String) :
    s'.find code = s.find code ∨
      s.find code = .error .notFound ∧
        ∃ link, s'.find code = .ok link ∧
          link.expiredAt now = true := by
  cases hClosed : s.closed with
  | true =>
      left
      rw [find_of_closed hClosed,
        find_of_closed (hAdds.closed.trans hClosed)]
  | false =>
      rw [find_of_open hClosed,
        find_of_open (hAdds.closed.trans hClosed), findOpen,
        findOpen]
      cases hFound : s.get? code with
      | some link =>
          left
          rw [hAdds.kept hFound]
      | none =>
          cases hFound' : s'.get? code with
          | none => exact Or.inl rfl
          | some link =>
              exact Or.inr ⟨rfl, link, rfl,
                hAdds.expired hFound hFound'⟩

/- So does a look-up that may fail or come late. -/
theorem endFind_cases
    (hAdds : b.store.AddsExpired now b'.store)
    (came : Option (Option StoreFault))
    (code : String) :
    b'.endFind came code = b.endFind came code ∨
      b.endFind came code = some (.error .notFound) ∧
        ∃ link, b'.endFind came code = some (.ok link) ∧
          link.expiredAt now = true := by
  rcases came with _ | _ | fault
  · exact Or.inl rfl
  · rcases hAdds.find_cases code with
      hSame | ⟨hNone, link, hFound, hExpired⟩
    · exact Or.inl (congrArg some hSame)
    · exact Or.inr ⟨congrArg some hNone, link,
        congrArg some hFound, hExpired⟩
  · exact Or.inl rfl

/- A ping only sees whether the store is closed. -/
theorem endPing_eq
    (hAdds : b.store.AddsExpired now b'.store)
    (came : Option (Option StoreFault)) :
    b'.endPing came = b.endPing came := by
  unfold StoreBackend.endPing ping
  rw [hAdds.closed]

end LinkStore.AddsExpired

namespace App

/- The state with another store, and a clock read otherwise. -/
def holding
    (s : App)
    (store : LinkStore)
    (readings : Nat) : App :=
  { s with
      links := { s.links with store := store }
      readings := readings }

/-
  Two states that differ in links that have expired by a
  time, and in how often the clock was read, alone.
-/
structure AddsExpired
    (now : Timestamp)
    (s s' : App) : Prop where
  store : s.links.store.AddsExpired now s'.links.store
  rest : s' = s.holding s'.links.store s'.readings

variable {now : Timestamp} {s s' : App}

/- The second state is the first one with another store. -/
theorem AddsExpired.exists_holding
    (hAdds : s.AddsExpired now s') :
    ∃ store readings,
      s.links.store.AddsExpired now store ∧
        s' = s.holding store readings :=
  ⟨_, _, hAdds.store, hAdds.rest⟩

theorem AddsExpired.queue
    (hAdds : s.AddsExpired now s') : s'.queue = s.queue := by
  rw [hAdds.rest]
  rfl

theorem AddsExpired.counter
    (hAdds : s.AddsExpired now s') :
    s'.counter = s.counter := by
  rw [hAdds.rest]
  rfl

theorem AddsExpired.metrics
    (hAdds : s.AddsExpired now s') :
    s'.metrics = s.metrics := by
  rw [hAdds.rest]
  rfl

/- A look-up begins alike. -/
theorem AddsExpired.beginFind
    (hAdds : s.AddsExpired now s') :
    s'.beginFind.1 = s.beginFind.1 ∧
      s.beginFind.2.AddsExpired now s'.beginFind.2 := by
  rcases hAdds.exists_holding with
    ⟨store, readings, hStore, rfl⟩
  exact ⟨rfl, hStore, rfl⟩

/- How often the clock was read does not matter. -/
theorem AddsExpired.read
    (hAdds : s.AddsExpired now s')
    (readings : Nat) :
    s.AddsExpired now { s' with readings } where
  store := hAdds.store
  rest :=
    congrArg (fun t : App => { t with readings }) hAdds.rest

theorem visit_holding
    (s : App)
    (store : LinkStore)
    (readings : Nat)
    (code : String) :
    (s.holding store readings).visit code =
      ((s.visit code).1,
        (s.visit code).2.holding store readings) := by
  have hQueue :
      (s.holding store readings).queue = s.queue := rfl
  unfold visit
  rw [hQueue]
  cases s.queue.offer? code with
  | some queue => rfl
  | none => rfl

end App

end UrlShortener

------------------------------------------------------------
-- Calls That Look Up No Link
------------------------------------------------------------

namespace UrlShortener

/- Asking the store for no link, and saving none. -/
def Ask.Linkless : Ask → Prop
| .find _ => False
| .save _ => False
| _ => True

theorem Ask.Watches.linkless
    {a : Ask}
    (hWatches : a.Watches) : a.Linkless := by
  cases a with
  | find code => exact hWatches
  | save new => exact hWatches
  | _ => exact True.intro

/- Surroundings in which a clock stands still. -/
def Surroundings.still
    (time : Timestamp)
    (entropy : Nat → Nat → UInt8) : Surroundings :=
  { clock := fun _ => time, entropy }

namespace Dialogue

variable {α : Type} {w : Surroundings}
variable {now time : Timestamp} {entropy : Nat → Nat → UInt8}
variable {s s' t : App} {d d' : Dialogue α} {e : Event}

/- Those who only observe read no clock. -/
theorem Within.clock_unread
    (hWatches : d.Within Ask.Watches)
    (s : App) : (d.asks w s).count .clock = 0 :=
  List.count_eq_zero.mpr fun hClock =>
    hWatches.asks s _ hClock

/- A call that looks up no link is answered alike. -/
theorem proceed?_addsExpired
    (hLinkless : d.Within Ask.Linkless)
    (hAdds : s.AddsExpired now s')
    (hStep :
      d.proceed? (.still time entropy) s = some (e, d', t)) :
    ∃ t', d.proceed? (.still time entropy) s' =
        some (e, d', t') ∧
      t.AddsExpired now t' := by
  rcases hAdds.exists_holding with
    ⟨store, readings, hStore, rfl⟩
  cases d with
  | done result => cases hStep
  | find limit code next => exact hLinkless.1.elim
  | save limit new next => exact hLinkless.1.elim
  | probe limit next =>
      cases hStep
      have hPing (came : Option (Option StoreFault)) :
          (s.holding store readings).beginProbe.2.links.endPing
              came =
            s.beginProbe.2.links.endPing came :=
        hStore.endPing_eq came
      refine ⟨s.beginProbe.2.holding store readings, ?_,
        hStore, rfl⟩
      rw [proceed?, hPing]
      rfl
  | visit code next =>
      cases hStep
      refine ⟨(s.visit code).2.holding store readings, ?_, ?_,
        rfl⟩
      · rw [proceed?, App.visit_holding]
      · rw [App.visit_links]
        exact hStore
  | _ =>
      cases hStep
      exact ⟨_, rfl, hStore, rfl⟩

/- So is a dialogue that looks up none. -/
theorem run_addsExpired
    (time : Timestamp)
    (entropy : Nat → Nat → UInt8)
    (hLinkless : d.Within Ask.Linkless)
    (hAdds : s.AddsExpired now s') :
    let ran := d.run (.still time entropy) s
    let ran' := d.run (.still time entropy) s'
    ran'.1 = ran.1 ∧ ran.2.AddsExpired now ran'.2 := by
  intro ran ran'
  have hRan :=
    run_side_by_side (w := .still time entropy)
      (P := fun d s s' =>
        d.Within Ask.Linkless ∧ s.AddsExpired now s')
      (fun ⟨hLinkless, hAdds⟩ hStep =>
        have ⟨_, hStep', hAdds'⟩ :=
          proceed?_addsExpired hLinkless hAdds hStep
        ⟨_, _, hStep', hLinkless.feed (feed?_of_proceed? hStep),
          hAdds'⟩)
      ⟨hLinkless, hAdds⟩
  exact ⟨hRan.1, hRan.2.2⟩

end Dialogue

end UrlShortener

------------------------------------------------------------
-- Resolutions
------------------------------------------------------------

namespace UrlShortener

namespace Shortener

variable {now time : Timestamp} {entropy : Nat → Nat → UInt8}
variable {s s' : App}

/- What is left to do once the clock was read. -/
theorem judgement_watches
    (code : String)
    (link : Link)
    (now : Timestamp) :
    (if link.expiredAt now then
      Dialogue.done (Except.error (expiredCode code))
    else
      .note .resolves
        (schedule link.shortCode (.ok link))).Within
      Ask.Watches := by
  split
  · exact True.intro
  · refine ⟨True.intro, True.intro, ?_⟩
    intro taken
    dsimp only
    split
    · exact True.intro
    · exact ⟨True.intro, True.intro⟩

/- A link that was found is judged without another. -/
theorem afterFind_linkless
    (code : String)
    (link : Link) :
    (afterFind code link).Within Ask.Linkless :=
  ⟨True.intro, fun now =>
    (judgement_watches code link now).mono
      fun _ => Ask.Watches.linkless⟩

/- An expired link ends a resolution. -/
theorem run_afterFind_of_expired
    {code : String}
    {link : Link}
    (hExpired : link.expiredAt time = true)
    (s : App) :
    (afterFind code link).run (.still time entropy) s =
      (.error (expiredCode code),
        { s with readings := s.readings + 1 }) := by
  have hRun :
      (afterFind code link).run (.still time entropy) s =
        (if link.expiredAt time then
          Dialogue.done (.error (expiredCode code))
        else
          .note .resolves
            (schedule link.shortCode (.ok link))).run
          (.still time entropy)
          { s with readings := s.readings + 1 } := rfl
  rw [hRun, if_pos hExpired]
  rfl

/- What a resolution does with the answer to its look-up. -/
theorem exists_find_of_resolve
    (policy : Policy)
    {code : String}
    (hBlank : ¬ Text.isBlankText code = true) :
    ∃ next,
      resolve policy code =
        .find policy.storeTimeout code next ∧
      (∀ reply, (next reply).Within Ask.Linkless) ∧
      next (some (.error .notFound)) =
        .done (.error (unknownCode code)) ∧
      ∀ link, next (some (.ok link)) = afterFind code link := by
  rw [resolve, if_neg hBlank]
  refine ⟨_, rfl, ?_, rfl, fun link => rfl⟩
  intro reply
  split
  · exact True.intro
  · exact True.intro
  · exact True.intro
  · exact afterFind_linkless code _

/- The clock is read once for a link that was found. -/
theorem afterFind_clock
    {w : Surroundings}
    (code : String)
    (link : Link)
    (s : App) :
    ((afterFind code link).asks w s).count .clock = 1 := by
  have hRest :=
    (judgement_watches code link (s.readClock w).1).clock_unread
      (w := w) (s.readClock w).2
  rw [afterFind, Dialogue.asks, List.count_cons_self, hRest]

/- For other answers to a look-up it is not read. -/
theorem resolve_clock_le
    {w : Surroundings}
    (policy : Policy)
    (code : String)
    (s : App) :
    ((resolve policy code).asks w s).count .clock ≤ 1 := by
  unfold resolve
  split
  · exact Nat.zero_le 1
  · have hOther : Ask.find code ≠ .clock := nofun
    rw [Dialogue.asks, List.count_cons_of_ne hOther]
    split
    · exact Nat.zero_le 1
    · exact Nat.zero_le 1
    · exact Nat.zero_le 1
    · exact Nat.le_of_eq (afterFind_clock code _ _)

/-
  A code whose link has expired and a code without a link
  are answered alike.
-/
theorem resolve_addsExpired
    (policy : Policy)
    (entropy : Nat → Nat → UInt8)
    (hLater : time.before now = false)
    (hAdds : s.AddsExpired now s')
    (code : String) :
    let ran := (resolve policy code).run
      (.still time entropy) s
    let ran' := (resolve policy code).run
      (.still time entropy) s'
    Site.resolved ran'.1 = Site.resolved ran.1 ∧
      ran.2.AddsExpired now ran'.2 := by
  by_cases hBlank : Text.isBlankText code = true
  · have hRan (s : App) :
        (resolve policy code).run (.still time entropy) s =
          (.error blankCode, s) := by
      rw [resolve, if_pos hBlank]
      rfl
    rw [hRan s, hRan s']
    exact ⟨rfl, hAdds⟩
  · rcases exists_find_of_resolve policy hBlank with
      ⟨next, hResolve, hLinkless, hUnknown, hKnown⟩
    have hRan (s : App) :
        (resolve policy code).run (.still time entropy) s =
          (next
            (s.beginFind.2.links.endFind
              (s.beginFind.1.within policy.storeTimeout)
              code)).run (.still time entropy)
            s.beginFind.2 := by
      rw [hResolve]
      rfl
    rcases hAdds.beginFind with ⟨hReply, hBegun⟩
    rw [hRan s, hRan s', hReply]
    rcases hBegun.store.endFind_cases
        (s.beginFind.1.within policy.storeTimeout) code with
      hSame | ⟨hNone, link, hFound, hExpired⟩
    · rw [hSame]
      exact (Dialogue.run_addsExpired time entropy
        (hLinkless _) hBegun).imp_left
          (congrArg Site.resolved)
    · rw [hNone, hUnknown, hFound, hKnown,
        run_afterFind_of_expired
          (link.expiredAt_later hExpired hLater)]
      exact ⟨rfl, hBegun.read _⟩

end Shortener

end UrlShortener

------------------------------------------------------------
-- Requests That Read
------------------------------------------------------------

namespace UrlShortener

namespace Site

variable {r : Request} {path : List Char}

/- A request that reads and resolves no code only observes. -/
theorem answer_watches
    (site : Site)
    (hReads : r.Reads)
    (hFollows : r.follows? path = none) :
    (site.answer r path).Within Ask.Watches := by
  unfold Request.follows? at hFollows
  unfold answer
  cases hRoute : Route.ofPath? path with
  | none => exact True.intro
  | some route =>
      cases route with
      | health =>
          apply reading_within
          exact ⟨True.intro, fun _ _ =>
            ⟨True.intro, fun _ => True.intro⟩⟩
      | links =>
          have hPost : r.method ≠ "POST" := by
            rcases hReads with hGet | hHead
            · rw [hGet]
              decide
            · rw [hHead]
              decide
          dsimp only
          rw [if_neg hPost]
          exact True.intro
      | stats segment =>
          apply reading_within
          unfold stats
          split
          · exact True.intro
          · refine ((Shortener.stats_within _ _).mono ?_).map _
            rintro a rfl
            exact True.intro
      | code segment =>
          have hMethod : r.method = "GET" ∨ r.method = "HEAD" :=
            hReads
          rw [hRoute] at hFollows
          dsimp only at hFollows
          rw [if_pos hMethod] at hFollows
          exact reading_within r (site.follow_within hFollows)

/-
  Answering a request that reads takes at most one look at
  the clock, so all that it sees of time is one moment.
-/
theorem clock_read_once
    (site : Site)
    (hReads : r.Reads)
    (w : Surroundings)
    (s : App) :
    ((site.answer r path).asks w s).count .clock ≤ 1 := by
  cases hFollows : r.follows? path with
  | none =>
      have hWatches := site.answer_watches hReads hFollows
      rw [hWatches.clock_unread s]
      exact Nat.zero_le 1
  | some code =>
      rcases site.answer_of_follows hFollows with ⟨f, hAnswer⟩
      rw [hAnswer, Dialogue.asks_map]
      exact Shortener.resolve_clock_le site.policy code s

/- Reading a head or a whole changes nothing about a run. -/
theorem run_reading_eq
    (hReads : r.Reads)
    (w : Surroundings)
    (d : Dialogue Response) :
    ∃ f : Response → Response, ∀ s : App,
      (reading r d).run w s =
        (f (d.run w s).1, (d.run w s).2) := by
  unfold reading
  by_cases hGet : r.method = "GET"
  · rw [if_pos hGet]
    exact ⟨id, fun s => rfl⟩
  · rw [if_neg hGet, if_pos (hReads.resolve_left hGet)]
    exact ⟨Response.withoutBody, Dialogue.run_map _ d⟩

end Site

end UrlShortener

------------------------------------------------------------
-- Sequences Of Requests
------------------------------------------------------------

namespace UrlShortener

/-
  A request with the time that it sees. One that reads never
  looks at the clock twice, by `Site.clock_read_once`.
-/
structure Arrival where
  time : Timestamp
  trims : Bool
  request : Request
deriving DecidableEq, Repr

namespace Site

variable (site : Site) (entropy : Nat → Nat → UInt8)

/- Answer a request at its time. -/
def receive (a : Arrival) (s : App) : Response × App :=
  (site.respond a.trims a.request).run (.still a.time entropy) s

/- Answer requests one after another. -/
def receiveAll : List Arrival → App → List Response × App
| [], s => ([], s)
| a :: rest, s =>
    let first := site.receive entropy a s
    let others := receiveAll rest first.2
    (first.1 :: others.1, others.2)

variable {now : Timestamp} {s s' : App} {a : Arrival}
variable {arrivals : List Arrival}

/-
  A request that reads is answered alike, and the states
  still differ in expired links alone.
-/
theorem receive_addsExpired
    (hReads : a.request.Reads)
    (hLater : a.time.before now = false)
    (hAdds : s.AddsExpired now s') :
    let got := site.receive entropy a s
    let got' := site.receive entropy a s'
    got'.1 = got.1 ∧ got.2.AddsExpired now got'.2 := by
  unfold receive
  rw [respond_eq]
  cases hFollows : a.request.follows? (seen a.trims a.request)
    with
  | none =>
      have hWatches := site.answer_watches hReads hFollows
      exact Dialogue.run_addsExpired a.time entropy
        (hWatches.mono fun _ => Ask.Watches.linkless) hAdds
  | some code =>
      have hNames :=
        (Request.follows?_eq_some_iff.mp hFollows).2
      rcases run_reading_eq hReads (.still a.time entropy)
          ((Shortener.resolve site.policy code).map resolved)
        with ⟨f, hRun⟩
      have hAlike :=
        Shortener.resolve_addsExpired site.policy entropy
          hLater hAdds code
      rw [site.answer_of_names hNames, hRun, hRun,
        Dialogue.run_map, Dialogue.run_map]
      exact ⟨congrArg f hAlike.1, hAlike.2⟩

/- So are any number of them. -/
theorem receiveAll_addsExpired
    (hReads : ∀ a ∈ arrivals, a.request.Reads)
    (hLater : ∀ a ∈ arrivals, a.time.before now = false)
    (hAdds : s.AddsExpired now s') :
    let ran := site.receiveAll entropy arrivals s
    let ran' := site.receiveAll entropy arrivals s'
    ran'.1 = ran.1 ∧ ran.2.AddsExpired now ran'.2 := by
  induction arrivals generalizing s s' with
  | nil => exact ⟨rfl, hAdds⟩
  | cons a rest ih =>
      rcases List.forall_mem_cons.mp hReads with
        ⟨hRead, hReads⟩
      rcases List.forall_mem_cons.mp hLater with
        ⟨hLate, hLater⟩
      rcases site.receive_addsExpired entropy hRead hLate
          hAdds with ⟨hSame, hAdds⟩
      rcases ih hReads hLater hAdds with ⟨hOthers, hAdds⟩
      exact ⟨congrArg₂ List.cons hSame hOthers, hAdds⟩

/-
  Take two states of the service, of which the second holds
  links that have expired and that the first does not know.
  Whoever only reads from then on is answered the same in
  both, and both are left with the same queue of visits, the
  same counter and the same totals. They differ as before,
  in nothing but the expired links. A request sees time just
  as the one moment at which it may read the clock.
-/
theorem expired_links_never_show
    (hAdds : s.AddsExpired now s')
    (hReads : ∀ a ∈ arrivals, a.request.Reads)
    (hLater : ∀ a ∈ arrivals, a.time.before now = false) :
    let ran := site.receiveAll entropy arrivals s
    let ran' := site.receiveAll entropy arrivals s'
    ran'.1 = ran.1 ∧
      ran'.2.queue = ran.2.queue ∧
      ran'.2.counter = ran.2.counter ∧
      ran'.2.metrics = ran.2.metrics ∧
      ran.2.AddsExpired now ran'.2 ∧
      ∀ a ∈ arrivals, ∀ w s,
        ((site.respond a.trims a.request).asks w s).count
          .clock ≤ 1 := by
  intro ran ran'
  rcases site.receiveAll_addsExpired entropy hReads hLater
      hAdds with ⟨hSame, hAdds⟩
  refine ⟨hSame, hAdds.queue, hAdds.counter, hAdds.metrics,
    hAdds, ?_⟩
  intro a hMem w s
  rw [respond_eq]
  exact site.clock_read_once (hReads a hMem) w s

/- A link that lives, and one that has expired at time 5. -/
def sampleLiving : Link :=
  { id := 1, shortCode := "abc", longUrl := "http://[::]/"
    originalUrl := "http://[::]/", userId := none
    createdAt := ⟨0, 0, 0⟩, expireAt := none }

def sampleExpired : Link :=
  { sampleLiving with
      id := 2
      shortCode := "old"
      expireAt := some ⟨0, 4, 0⟩ }

def sampleForgetful : App :=
  { App.init (.listed []) 1 with
      links :=
        { StoreBackend.fresh with
            store := ⟨[("abc", sampleLiving)], 2, false⟩ } }

def sampleMindful : App :=
  sampleForgetful.holding
    { sampleForgetful.links.store with
        bindings :=
          [("abc", sampleLiving), ("old", sampleExpired)] } 0

def sampleArrivals : List Arrival :=
  [⟨⟨0, 5, 0⟩, true, ⟨"GET", "/old", [], []⟩⟩,
    ⟨⟨0, 6, 0⟩, true, ⟨"HEAD", "/abc", [], []⟩⟩,
    ⟨⟨0, 5, 0⟩, false,
      ⟨"GET", "/api/links/old/stats", [], []⟩⟩]

theorem sample_expired_link_never_shows :
    let site : Site := ⟨.usual, 1000⟩
    let entropy : Nat → Nat → UInt8 := fun _ _ => 0
    let ran := site.receiveAll entropy sampleArrivals
      sampleForgetful
    let ran' := site.receiveAll entropy sampleArrivals
      sampleMindful
    sampleMindful.links.store.get? "old" =
        some sampleExpired ∧
      ran'.1 = ran.1 ∧
      ran.1.map Response.status = [404, 302, 200] ∧
      ran'.2.queue.waiting = ["abc"] := by
  intro site entropy ran ran'
  have hAdds :
      sampleForgetful.AddsExpired ⟨0, 5, 0⟩ sampleMindful :=
    ⟨.append _ (by decide), rfl⟩
  have hReads : ∀ a ∈ sampleArrivals, a.request.Reads := by
    unfold Request.Reads
    decide
  have hLater :
      ∀ a ∈ sampleArrivals,
        a.time.before ⟨0, 5, 0⟩ = false := by
    decide
  have hShows :=
    expired_links_never_show site entropy hAdds hReads hLater
  refine ⟨rfl, hShows.1, ?_, ?_⟩
  · decide +kernel
  · rw [hShows.2.1]
    decide +kernel

end Site

end UrlShortener
