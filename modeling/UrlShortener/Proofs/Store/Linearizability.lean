import UrlShortener.Proofs.Store.Race

/-
  Calls that run at once on a link store are answered as if
  they had run one after another, in an order that agrees
  with the times at which they began and ended. A call that
  found the store open and saved only after it was closed
  stands in front of the close in that order.

  Key definitions include:
    * `Race.Timely`
    * `Race.Explained`
    * `Race.Decided`
    * `Race.Gone`

  Main declarations:
    * `Race.Explained.step`
    * `Race.Explained.served`
    * `Race.Decided.step`
    * `Race.concurrent_calls_are_linearizable`
-/

------------------------------------------------------------
-- Times
------------------------------------------------------------

namespace UrlShortener

namespace Race

/-
  Calls begin and end in the past, begin before they end,
  and no two calls begin at one time.
-/
structure Timely (r : Race) : Prop where
  pending_past : ∀ p ∈ r.pending, p.begun < r.time
  finished_past :
    ∀ f ∈ r.finished, f.begun ≤ f.ended ∧ f.ended < r.time
  finished_distinct :
    (r.finished.map FinishedCall.begun).Nodup
  apart :
    ∀ p ∈ r.pending, ∀ f ∈ r.finished, p.begun ≠ f.begun

variable {clock : Nat → Timestamp} {r r' : Race}

theorem timely_start (s : LinkStore) : Timely (start s) where
  pending_past := by simp [start]
  finished_past := by simp [start]
  finished_distinct := by simp [start]
  apart := by simp [start]

/- A call that was pending may be answered. -/
theorem Timely.finish
    (hTimely : Timely r)
    {p : PendingCall}
    (hPending : p ∈ r.pending)
    (result : StoreAnswer × LinkStore) :
    Timely (r.finish p result) where
  pending_past := by
    intro q hMem
    have hOld :=
      hTimely.pending_past q (mem_of_mem_others hMem).1
    simp only [Race.finish]
    omega
  finished_past := by
    intro f hMem
    simp only [Race.finish, List.mem_append,
      List.mem_singleton] at hMem ⊢
    rcases hMem with hOld | rfl
    · have hPast := hTimely.finished_past f hOld
      omega
    · have hPast := hTimely.pending_past p hPending
      exact ⟨Nat.le_of_lt hPast, Nat.lt_succ_self r.time⟩
  finished_distinct := by
    simp only [Race.finish, List.map_append,
      List.map_singleton]
    apply List.nodup_append.mpr
    refine ⟨hTimely.finished_distinct,
      List.nodup_singleton _, ?_⟩
    intro begun hOld other hNew
    rw [List.mem_singleton] at hNew
    rcases List.mem_map.mp hOld with ⟨f, hMem, rfl⟩
    subst hNew
    exact (hTimely.apart p hPending f hMem).symm
  apart := by
    intro q hMem f hFinished
    have hOther := mem_of_mem_others hMem
    simp only [Race.finish, List.mem_append,
      List.mem_singleton] at hFinished
    rcases hFinished with hOld | rfl
    · exact hTimely.apart q hOther.1 f hOld
    · exact hOther.2

/-
  Calls that began earlier or begin now may be pending after
  a step that answers none.
-/
theorem Timely.unanswered
    (hTimely : Timely r)
    {pending : List PendingCall}
    (hPending :
      ∀ p ∈ pending,
        p.begun = r.time ∨
          ∃ q ∈ r.pending, q.begun = p.begun) :
    Timely
      { r with time := r.time + 1, pending := pending } where
  pending_past := by
    intro p hMem
    change p.begun < r.time + 1
    rcases hPending p hMem with hNow | ⟨q, hOld, hBegun⟩
    · omega
    · have hPast := hTimely.pending_past q hOld
      omega
  finished_past := by
    intro f hMem
    have hPast := hTimely.finished_past f hMem
    exact ⟨hPast.1, Nat.lt_succ_of_lt hPast.2⟩
  finished_distinct := hTimely.finished_distinct
  apart := by
    intro p hMem f hFinished
    rcases hPending p hMem with hNow | ⟨q, hOld, hBegun⟩
    · have hPast := hTimely.finished_past f hFinished
      omega
    · rw [← hBegun]
      exact hTimely.apart q hOld f hFinished

theorem Timely.step
    (hTimely : Timely r)
    (hEffect : Effect clock r r') : Timely r' := by
  cases hEffect with
  | idle =>
      apply hTimely.unanswered
      intro p hMem
      exact Or.inr ⟨p, hMem, rfl⟩
  | began call =>
      apply hTimely.unanswered
      intro p hMem
      rcases List.mem_append.mp hMem with hOld | hNew
      · exact Or.inr ⟨p, hOld, rfl⟩
      · rw [List.mem_singleton] at hNew
        subst hNew
        exact Or.inl rfl
  | cancelled begun =>
      apply hTimely.unanswered
      intro p hMem
      exact Or.inr ⟨p, (mem_of_mem_others hMem).1, rfl⟩
  | @parked p hPending hOpen =>
      apply hTimely.unanswered
      intro q hMem
      rcases List.mem_append.mp hMem with hOld | hNew
      · exact Or.inr ⟨q, (mem_of_mem_others hOld).1, rfl⟩
      · rw [List.mem_singleton] at hNew
        subst hNew
        exact Or.inr ⟨p, hPending, rfl⟩
  | refused hPending _ _ => exact hTimely.finish hPending _
  | pinged hPending _ _ _ => exact hTimely.finish hPending _
  | closed hPending _ _ _ => exact hTimely.finish hPending _
  | saved hPending _ _ => exact hTimely.finish hPending _
  | found hPending _ _ => exact hTimely.finish hPending _

end Race

end UrlShortener

------------------------------------------------------------
-- The Sequential Order
------------------------------------------------------------

namespace UrlShortener

open LinkStore (serve)

namespace Race

/-
  The answered calls of a race in an order that explains
  them. The early ones, served one after another, leave the
  links that the race has, and none of them is a close; those
  that are late were refused, and the first of them closed
  the store, unless it was closed from the start. A call that
  waits for the lock began before any of the late ones ended.
-/
structure Explained
    (clock : Nat → Timestamp)
    (s : LinkStore)
    (r : Race)
    (early late : List FinishedCall) : Prop where
  perm : (early ++ late).Perm r.finished
  early_served :
    serve (early.map (FinishedCall.timed clock)) s =
      (early.map FinishedCall.answer,
        r.store.withFlag s.closed)
  early_works : ∀ f ∈ early, f.call ≠ .close
  late_refused : ∀ f ∈ late, f.answer = f.call.refused
  late_of_open : r.store.closed = false → late = []
  closed_of_closed :
    s.closed = true → r.store.closed = true
  closed_by :
    r.store.closed = true →
      s.closed = true ∨
        ∃ c rest, late = c :: rest ∧ c.call = .close
  in_order :
    (early ++ late).Pairwise fun f g => ¬ g.ended < f.begun
  parked_open :
    ∀ p ∈ r.pending, p.admitted = true → s.closed = false
  parked_first :
    ∀ p ∈ r.pending, p.admitted = true →
      ∀ f ∈ late, p.begun ≤ f.ended

variable {clock : Nat → Timestamp} {s : LinkStore}
variable {r r' : Race} {early late : List FinishedCall}

theorem explained_start (s : LinkStore) :
    Explained clock s (start s) [] [] where
  perm := List.Perm.refl _
  early_served := rfl
  early_works := by simp
  late_refused := by simp
  late_of_open := fun _ => rfl
  closed_of_closed := id
  closed_by := Or.inl
  in_order := List.Pairwise.nil
  parked_open := by simp [start]
  parked_first := by simp [start]

namespace Explained

/- A step that answers no call needs no other order. -/
theorem unanswered
    (hExplained : Explained clock s r early late)
    {pending : List PendingCall}
    (hPending :
      ∀ p ∈ pending, p.admitted = true →
        p ∈ r.pending ∨ r.store.closed = false) :
    Explained clock s
      { r with time := r.time + 1, pending := pending }
      early late where
  perm := hExplained.perm
  early_served := hExplained.early_served
  early_works := hExplained.early_works
  late_refused := hExplained.late_refused
  late_of_open := hExplained.late_of_open
  closed_of_closed := hExplained.closed_of_closed
  closed_by := hExplained.closed_by
  in_order := hExplained.in_order
  parked_open := by
    intro p hMem hAdmitted
    rcases hPending p hMem hAdmitted with hOld | hOpen
    · exact hExplained.parked_open p hOld hAdmitted
    · cases hClosed : s.closed with
      | false => rfl
      | true =>
          rw [hExplained.closed_of_closed hClosed] at hOpen
          cases hOpen
  parked_first := by
    intro p hMem hAdmitted f hLate
    rcases hPending p hMem hAdmitted with hOld | hOpen
    · exact hExplained.parked_first p hOld hAdmitted f hLate
    · rw [hExplained.late_of_open hOpen] at hLate
      cases hLate

/- All calls of the order have begun. -/
theorem begun_lt
    (hExplained : Explained clock s r early late)
    (hTimely : Timely r)
    {f : FinishedCall}
    (hMem : f ∈ early ++ late) :
    f.begun < r.time := by
  have hPast :=
    hTimely.finished_past f (hExplained.perm.subset hMem)
  omega

/-
  A call that behaves as it would alone on a store with the
  flag of the start comes after the early calls.
-/
theorem answered_early
    (hExplained : Explained clock s r early late)
    (hTimely : Timely r)
    {p : PendingCall}
    {result : StoreAnswer × LinkStore}
    (hAnswer :
      (r.store.withFlag s.closed).answer (clock r.time)
          p.call.call =
        (result.1, result.2.withFlag s.closed))
    (hFlag : result.2.closed = r.store.closed)
    (hWorks : p.call ≠ .close)
    (hFirst : ∀ f ∈ late, p.begun ≤ f.ended) :
    Explained clock s (r.finish p result)
      (early ++ [p.answered r.time result.1]) late where
  perm := by
    have hMiddle :
        (early ++ [p.answered r.time result.1] ++ late).Perm
          (p.answered r.time result.1 :: (early ++ late)) := by
      rw [List.append_assoc]
      exact List.perm_middle
    exact hMiddle.trans
      ((hExplained.perm.cons _).trans
        (List.perm_append_singleton _ _).symm)
  early_served := by
    have hTimed :
        (p.answered r.time result.1).timed clock =
          (clock r.time, p.call.call) := rfl
    rw [List.map_append, LinkStore.serve_append,
      hExplained.early_served, List.map_append,
      List.map_singleton, List.map_singleton, hTimed,
      LinkStore.serve_cons, LinkStore.serve_nil, hAnswer]
    rfl
  early_works := by
    intro f hMem
    rcases List.mem_append.mp hMem with hOld | hNew
    · exact hExplained.early_works f hOld
    · rw [List.mem_singleton] at hNew
      subst hNew
      exact hWorks
  late_refused := hExplained.late_refused
  late_of_open := by
    intro hOpen
    exact hExplained.late_of_open (hFlag.symm.trans hOpen)
  closed_of_closed := by
    intro hClosed
    exact hFlag.trans (hExplained.closed_of_closed hClosed)
  closed_by := by
    intro hClosed
    exact hExplained.closed_by (hFlag.symm.trans hClosed)
  in_order := by
    have hOld := List.pairwise_append.mp hExplained.in_order
    apply List.pairwise_append.mpr
    refine ⟨?_, hOld.2.1, ?_⟩
    · apply List.pairwise_append.mpr
      refine ⟨hOld.1, List.pairwise_singleton _ _, ?_⟩
      intro f hMem g hNew
      rw [List.mem_singleton] at hNew
      subst hNew
      have hBegun := hExplained.begun_lt hTimely
        (List.mem_append_left late hMem)
      change ¬ r.time < f.begun
      omega
    · intro f hMem g hLate
      rcases List.mem_append.mp hMem with hEarly | hNew
      · exact hOld.2.2 f hEarly g hLate
      · rw [List.mem_singleton] at hNew
        subst hNew
        exact Nat.not_lt.mpr (hFirst g hLate)
  parked_open := by
    intro q hMem
    exact hExplained.parked_open q (mem_of_mem_others hMem).1
  parked_first := by
    intro q hMem
    exact hExplained.parked_first q (mem_of_mem_others hMem).1

/-
  A call that is answered as by a closed store comes last.
  It found the store closed, or it closed it.
-/
theorem answered_late
    (hExplained : Explained clock s r early late)
    (hTimely : Timely r)
    {p : PendingCall}
    {store : LinkStore}
    (hStore :
      store.withFlag s.closed = r.store.withFlag s.closed)
    (hClosed : store.closed = true)
    (hBy : r.store.closed = true ∨ p.call = .close) :
    Explained clock s (r.finish p (p.call.refused, store))
      early (late ++ [p.answered r.time p.call.refused]) where
  perm := by
    rw [← List.append_assoc]
    exact hExplained.perm.append_right _
  early_served := by
    rw [hExplained.early_served, ← hStore]
    rfl
  early_works := hExplained.early_works
  late_refused := by
    intro f hMem
    rcases List.mem_append.mp hMem with hOld | hNew
    · exact hExplained.late_refused f hOld
    · rw [List.mem_singleton] at hNew
      subst hNew
      rfl
  late_of_open := by
    intro hOpen
    change store.closed = false at hOpen
    rw [hClosed] at hOpen
    cases hOpen
  closed_of_closed := fun _ => hClosed
  closed_by := by
    intro _
    cases hOld : r.store.closed with
    | true =>
        rcases hExplained.closed_by hOld with
          hStart | ⟨c, rest, hLate, hClose⟩
        · exact Or.inl hStart
        · rw [hLate]
          exact Or.inr ⟨c, _, List.cons_append, hClose⟩
    | false =>
        have hClose : p.call = .close := by
          rcases hBy with hClosed | hClose
          · rw [hOld] at hClosed
            cases hClosed
          · exact hClose
        rw [hExplained.late_of_open hOld]
        exact Or.inr ⟨_, [], rfl, hClose⟩
  in_order := by
    rw [← List.append_assoc]
    apply List.pairwise_append.mpr
    refine ⟨hExplained.in_order,
      List.pairwise_singleton _ _, ?_⟩
    intro f hMem g hNew
    rw [List.mem_singleton] at hNew
    subst hNew
    have hBegun := hExplained.begun_lt hTimely hMem
    change ¬ r.time < f.begun
    omega
  parked_open := by
    intro q hMem
    exact hExplained.parked_open q (mem_of_mem_others hMem).1
  parked_first := by
    intro q hMem hAdmitted f hLate
    have hPending := (mem_of_mem_others hMem).1
    rcases List.mem_append.mp hLate with hOld | hNew
    · exact hExplained.parked_first q hPending hAdmitted f hOld
    · rw [List.mem_singleton] at hNew
      subst hNew
      exact Nat.le_of_lt (hTimely.pending_past q hPending)

/- Every step leaves an order that explains the answers. -/
theorem step
    (hExplained : Explained clock s r early late)
    (hTimely : Timely r)
    (hEffect : Effect clock r r') :
    ∃ early late, Explained clock s r' early late := by
  -- An open store was open from the start, and none is late.
  have hOpenStart :
      r.store.closed = false → s.closed = false := by
    intro hOpen
    cases hClosed : s.closed with
    | false => rfl
    | true =>
        rw [hExplained.closed_of_closed hClosed] at hOpen
        cases hOpen
  cases hEffect with
  | idle =>
      exact ⟨_, _, hExplained.unanswered
        fun p hMem _ => Or.inl hMem⟩
  | began call =>
      refine ⟨_, _, hExplained.unanswered ?_⟩
      intro p hMem hAdmitted
      rcases List.mem_append.mp hMem with hOld | hNew
      · exact Or.inl hOld
      · rw [List.mem_singleton] at hNew
        subst hNew
        cases hAdmitted
  | cancelled begun =>
      exact ⟨_, _, hExplained.unanswered
        fun p hMem _ => Or.inl (mem_of_mem_others hMem).1⟩
  | parked hPending hOpen =>
      exact ⟨_, _, hExplained.unanswered
        fun p hMem _ => Or.inr hOpen⟩
  | refused hPending hAdmitted hClosed =>
      exact ⟨_, _, hExplained.answered_late hTimely rfl
        hClosed (Or.inl hClosed)⟩
  | @pinged p hPending hAdmitted hOpen hCall =>
      have hStart := hOpenStart hOpen
      refine ⟨_, _, hExplained.answered_early hTimely ?_
        rfl ?_ ?_⟩
      · rw [hCall, hStart]
        rfl
      · simp [hCall]
      · rw [hExplained.late_of_open hOpen]
        simp
  | @closed p hPending hAdmitted hOpen hCall =>
      have hRefused : p.call.refused = .closed (.ok ()) := by
        rw [hCall]
        rfl
      rw [← hRefused]
      exact ⟨_, _, hExplained.answered_late hTimely rfl rfl
        (Or.inr hCall)⟩
  | @saved p new hPending hAdmitted hCall =>
      have hStart :=
        hExplained.parked_open p hPending hAdmitted
      refine ⟨_, _, hExplained.answered_early hTimely ?_ ?_
        (by simp [hCall])
        (hExplained.parked_first p hPending hAdmitted)⟩
      · rw [hCall, hStart]
        simp only [GuardedCall.call, LinkStore.answer]
        rw [LinkStore.save_of_open rfl,
          LinkStore.saveOpen_withFlag]
        rfl
      · exact LinkStore.saveOpen_closed _ _ _
  | @found p code hPending hAdmitted hCall =>
      have hStart :=
        hExplained.parked_open p hPending hAdmitted
      refine ⟨_, _, hExplained.answered_early hTimely ?_ rfl
        (by simp [hCall])
        (hExplained.parked_first p hPending hAdmitted)⟩
      rw [hCall, hStart]
      simp only [GuardedCall.call, LinkStore.answer]
      rw [LinkStore.find_of_open rfl]
      rfl

/- Late calls are served by a closed store as they were. -/
theorem serve_refused
    {s : LinkStore}
    (hClosed : s.closed = true)
    {late : List FinishedCall}
    (hRefused : ∀ f ∈ late, f.answer = f.call.refused) :
    serve (late.map (FinishedCall.timed clock)) s =
      (late.map FinishedCall.answer, s) := by
  have hAnswers :
      (late.map fun f => f.call.call.refused s.size) =
        late.map FinishedCall.answer := by
    apply List.map_congr_left
    intro f hMem
    rw [GuardedCall.call_refused, hRefused f hMem]
  rw [LinkStore.serve_of_closed hClosed, List.map_map,
    ← hAnswers]
  rfl

/- The order explains the answers and the store. -/
theorem served
    (hExplained : Explained clock s r early late) :
    serve ((early ++ late).map (FinishedCall.timed clock)) s =
      ((early ++ late).map FinishedCall.answer, r.store) := by
  have hLate :
      serve (late.map (FinishedCall.timed clock))
          (r.store.withFlag s.closed) =
        (late.map FinishedCall.answer, r.store) := by
    cases hFlag : r.store.closed with
    | false =>
        have hStart : r.store.closed = s.closed := by
          cases hClosed : s.closed with
          | false => exact hFlag
          | true => exact hExplained.closed_of_closed hClosed
        rw [hExplained.late_of_open hFlag,
          LinkStore.withFlag_eq_self hStart]
        rfl
    | true =>
        rcases hExplained.closed_by hFlag with
          hStart | ⟨c, rest, hCons, hClose⟩
        · rw [hStart, LinkStore.withFlag_eq_self hFlag]
          exact serve_refused hFlag hExplained.late_refused
        · have hRefused := hExplained.late_refused
          rw [hCons] at hRefused ⊢
          rw [List.forall_mem_cons, hClose] at hRefused
          have hTimed :
              c.timed clock = (clock c.ended, .close) := by
            rw [FinishedCall.timed, hClose]
            rfl
          have hSet : r.store.withFlag true = r.store :=
            LinkStore.withFlag_eq_self hFlag
          have hAnswer :
              (r.store.withFlag s.closed).answer
                  (clock c.ended) .close =
                (c.answer, r.store) := by
            rw [hRefused.1, ← hSet]
            rfl
          rw [List.map_cons, List.map_cons, hTimed,
            LinkStore.serve_cons, hAnswer,
            serve_refused hFlag hRefused.2]
  rw [List.map_append, LinkStore.serve_append,
    hExplained.early_served, hLate, List.map_append]

/- What begins after a close has ended is refused. -/
theorem refused_of_closed
    (hExplained : Explained clock s r early late)
    {c f : FinishedCall}
    (hClosing : c ∈ r.finished)
    (hClose : c.call = .close)
    (hFinished : f ∈ r.finished)
    (hAfter : c.ended < f.begun) :
    f.answer = f.call.refused := by
  have hOrder := List.pairwise_append.mp hExplained.in_order
  have hLate : c ∈ late := by
    rcases List.mem_append.mp
      (hExplained.perm.symm.subset hClosing) with hMem | hMem
    · exact absurd hClose (hExplained.early_works c hMem)
    · exact hMem
  rcases List.mem_append.mp
    (hExplained.perm.symm.subset hFinished) with hMem | hMem
  · exact absurd hAfter (hOrder.2.2 f hMem c hLate)
  · exact hExplained.late_refused f hMem

end Explained

end Race

end UrlShortener

------------------------------------------------------------
-- The Saves Of A Code
------------------------------------------------------------

namespace UrlShortener

namespace Race

/-
  The saves of a code that passed the look at the closed flag
  and were answered: while the code is free there are none,
  and once it has a link, one of them was answered this link
  and all others a conflict.
-/
structure Decided (r : Race) (code : String) : Prop where
  free :
    r.store.get? code = none →
      ∀ f ∈ r.finished, f.admitted = true →
        ¬ f.call.Saves code
  won :
    ∀ link, r.store.get? code = some link →
      ∃ before w after,
        r.finished = before ++ w :: after ∧
        w.admitted = true ∧
        w.call.Saves code ∧
        w.answer = .saved (.ok link) ∧
        ∀ f ∈ before ++ after, f.admitted = true →
          f.call.Saves code →
            f.answer = .saved (.error (.conflict code))

variable {clock : Nat → Timestamp}
variable {r r' : Race} {code : String}

/- Nothing has been decided about a code that is free. -/
theorem decided_start
    {s : LinkStore}
    (hFree : s.get? code = none) :
    Decided (start s) code where
  free := by simp [start]
  won := by
    intro link hFound
    change s.get? code = some link at hFound
    rw [hFree] at hFound
    cases hFound

namespace Decided

/-
  A call that leaves the code as it is decides nothing; if it
  is an admitted save of the code, it met a conflict.
-/
theorem finish
    (hDecided : Decided r code)
    {p : PendingCall}
    {result : StoreAnswer × LinkStore}
    (hSame : result.2.get? code = r.store.get? code)
    (hLost :
      p.admitted = true → p.call.Saves code →
        r.store.get? code ≠ none ∧
          result.1 = .saved (.error (.conflict code))) :
    Decided (r.finish p result) code where
  free := by
    intro hFree f hMem hAdmitted hSaves
    have hOld : r.store.get? code = none :=
      hSame.symm.trans hFree
    rcases List.mem_append.mp hMem with hFinished | hNew
    · exact hDecided.free hOld f hFinished hAdmitted hSaves
    · rw [List.mem_singleton] at hNew
      subst hNew
      exact (hLost hAdmitted hSaves).1 hOld
  won := by
    intro link hFound
    rcases hDecided.won link (hSame.symm.trans hFound) with
      ⟨before, w, after, hList, hAdmitted, hSaves, hAnswer,
        hOthers⟩
    refine ⟨before, w,
      after ++ [p.answered r.time result.1], ?_, hAdmitted,
      hSaves, hAnswer, ?_⟩
    · rw [Race.finish, hList, List.append_assoc,
        List.cons_append]
    · intro f hMem hPassed hSavesToo
      rw [← List.append_assoc] at hMem
      rcases List.mem_append.mp hMem with hOld | hNew
      · exact hOthers f hOld hPassed hSavesToo
      · rw [List.mem_singleton] at hNew
        subst hNew
        exact (hLost hPassed hSavesToo).2

/- The first save of a free code wins it. -/
theorem finish_first
    (hDecided : Decided r code)
    {p : PendingCall}
    {store : LinkStore}
    {link : Link}
    (hFree : r.store.get? code = none)
    (hFound : store.get? code = some link)
    (hAdmitted : p.admitted = true)
    (hSaves : p.call.Saves code) :
    Decided (r.finish p (.saved (.ok link), store)) code where
  free := by
    intro hNone
    change store.get? code = none at hNone
    rw [hFound] at hNone
    cases hNone
  won := by
    intro other hOther
    change store.get? code = some other at hOther
    rw [hFound] at hOther
    cases hOther
    refine ⟨r.finished, _, [], rfl, hAdmitted, hSaves, rfl, ?_⟩
    intro f hMem hPassed hSavesToo
    rw [List.append_nil] at hMem
    exact absurd hSavesToo
      (hDecided.free hFree f hMem hPassed)

/- Every step leaves a code decided. -/
theorem step
    (hDecided : Decided r code)
    (hEffect : Effect clock r r') :
    Decided r' code := by
  cases hEffect with
  | idle => exact ⟨hDecided.free, hDecided.won⟩
  | began call => exact ⟨hDecided.free, hDecided.won⟩
  | cancelled begun => exact ⟨hDecided.free, hDecided.won⟩
  | parked _ _ => exact ⟨hDecided.free, hDecided.won⟩
  | refused _ hAdmitted _ =>
      apply hDecided.finish rfl
      intro hPassed
      rw [hAdmitted] at hPassed
      cases hPassed
  | pinged _ hAdmitted _ _ =>
      apply hDecided.finish rfl
      intro hPassed
      rw [hAdmitted] at hPassed
      cases hPassed
  | closed _ hAdmitted _ _ =>
      apply hDecided.finish rfl
      intro hPassed
      rw [hAdmitted] at hPassed
      cases hPassed
  | found _ _ hCall =>
      apply hDecided.finish rfl
      intro _ hSaves
      rw [hCall] at hSaves
      cases hSaves
  | @saved p new _ hAdmitted hCall =>
      have hSavesIff :
          p.call.Saves code ↔ new.shortCode = code := by
        rw [hCall]
        rfl
      rcases r.store.saveOpen_cases new (clock r.time) with
        ⟨hTaken, hSave⟩ | ⟨hFree, hSave⟩
      · rw [hSave]
        apply hDecided.finish rfl
        intro _ hSaves
        obtain rfl := hSavesIff.mp hSaves
        refine ⟨?_, rfl⟩
        intro hNone
        rw [hNone] at hTaken
        cases hTaken
      · rw [hSave]
        by_cases hCode : new.shortCode = code
        · subst hCode
          exact hDecided.finish_first hFree
            (LinkStore.get?_insert_self hFree) hAdmitted
            (hSavesIff.mpr rfl)
        · apply hDecided.finish
          · change (r.store.insert new (clock r.time)).2.get?
              code = r.store.get? code
            rw [LinkStore.get?_insert, if_neg hCode,
              Option.or_none]
          · intro _ hSaves
            exact absurd (hSavesIff.mp hSaves) hCode

end Decided

end Race

end UrlShortener

------------------------------------------------------------
-- Calls That Were Given Up
------------------------------------------------------------

namespace UrlShortener

namespace Race

/- The call that began at a time will never be answered. -/
structure Gone (begun : Nat) (r : Race) : Prop where
  past : begun < r.time
  not_pending : ∀ p ∈ r.pending, p.begun ≠ begun
  not_finished : ∀ f ∈ r.finished, f.begun ≠ begun

variable {clock : Nat → Timestamp} {r r' : Race}

/- A call is gone once it was given up. -/
theorem gone_of_cancel
    (hTimely : Timely r)
    {p : PendingCall}
    (hPending : p ∈ r.pending) :
    Gone p.begun (r.step clock (.cancel p.begun)) where
  past := Nat.lt_succ_of_lt (hTimely.pending_past p hPending)
  not_pending := by
    intro q hMem
    exact (mem_of_mem_others hMem).2
  not_finished := by
    intro f hMem
    exact (hTimely.apart p hPending f hMem).symm

namespace Gone

variable {begun : Nat}

/- Another call may be answered. -/
theorem finish
    (hGone : Gone begun r)
    {p : PendingCall}
    (hPending : p ∈ r.pending)
    (result : StoreAnswer × LinkStore) :
    Gone begun (r.finish p result) where
  past := Nat.lt_succ_of_lt hGone.past
  not_pending := by
    intro q hMem
    exact hGone.not_pending q (mem_of_mem_others hMem).1
  not_finished := by
    intro f hMem
    rcases List.mem_append.mp hMem with hOld | hNew
    · exact hGone.not_finished f hOld
    · rw [List.mem_singleton] at hNew
      subst hNew
      exact hGone.not_pending p hPending

/- Calls that began at another time may be pending. -/
theorem unanswered
    (hGone : Gone begun r)
    {pending : List PendingCall}
    (hPending : ∀ p ∈ pending, p.begun ≠ begun) :
    Gone begun
      { r with time := r.time + 1, pending := pending } where
  past := Nat.lt_succ_of_lt hGone.past
  not_pending := hPending
  not_finished := hGone.not_finished

/- What is gone stays gone. -/
theorem step
    (hGone : Gone begun r)
    (hEffect : Effect clock r r') : Gone begun r' := by
  cases hEffect with
  | idle => exact hGone.unanswered hGone.not_pending
  | began call =>
      apply hGone.unanswered
      intro p hMem
      rcases List.mem_append.mp hMem with hOld | hNew
      · exact hGone.not_pending p hOld
      · rw [List.mem_singleton] at hNew
        subst hNew
        exact (Nat.ne_of_lt hGone.past).symm
  | cancelled other =>
      apply hGone.unanswered
      intro p hMem
      exact hGone.not_pending p (mem_of_mem_others hMem).1
  | @parked p hPending _ =>
      apply hGone.unanswered
      intro q hMem
      rcases List.mem_append.mp hMem with hOld | hNew
      · exact hGone.not_pending q (mem_of_mem_others hOld).1
      · rw [List.mem_singleton] at hNew
        subst hNew
        exact hGone.not_pending p hPending
  | refused hPending _ _ => exact hGone.finish hPending _
  | pinged hPending _ _ _ => exact hGone.finish hPending _
  | closed hPending _ _ _ => exact hGone.finish hPending _
  | saved hPending _ _ => exact hGone.finish hPending _
  | found hPending _ _ => exact hGone.finish hPending _

end Gone

end Race

end UrlShortener

------------------------------------------------------------
-- Linearizability
------------------------------------------------------------

namespace UrlShortener

open LinkStore (serve)

namespace Race

/- Every run from a store that nobody calls can be explained. -/
theorem run_explained
    (clock : Nat → Timestamp)
    (s : LinkStore)
    (moves : List RaceMove) :
    ∃ early late,
      Explained clock s (run clock moves (start s))
        early late := by
  have hRun :
      Timely (run clock moves (start s)) ∧
        ∃ early late,
          Explained clock s (run clock moves (start s))
            early late := by
    refine run_induction clock
      (P := fun r => Timely r ∧
        ∃ early late, Explained clock s r early late)
      ?_ moves ⟨timely_start s, [], [], explained_start s⟩
    rintro r r' ⟨hTimely, early, late, hOrder⟩ hEffect
    exact ⟨hTimely.step hEffect, hOrder.step hTimely hEffect⟩
  exact hRun.2

/-
  However the steps of concurrent calls fall, the calls that
  were answered can be put in an order that no two calls, of
  which one ended before the other began, contradict, and in
  which the store, called from one place, gives the same
  answers and is left the same. A store that held links with
  the numbers from one holds those of the saves after them.
  Of the saves of a free code that passed the look at the
  closed flag just one wins it; calls that begin after a
  close has ended are refused; and a call that is given up
  leaves no trace and is never answered.
-/
theorem concurrent_calls_are_linearizable
    (clock : Nat → Timestamp)
    (s : LinkStore)
    (moves : List RaceMove) :
    let r := run clock moves (start s)
    (∃ order : List FinishedCall,
      order.Perm r.finished ∧
      order.Pairwise (fun f g => ¬ g.ended < f.begun) ∧
      serve (order.map (FinishedCall.timed clock)) s =
        (order.map FinishedCall.answer, r.store) ∧
      ∀ links, s.Holds links →
        r.store.Holds
          (links ++
            savedLinks (order.map FinishedCall.answer))) ∧
      (r.finished.map FinishedCall.begun).Nodup ∧
      (∀ f ∈ r.finished, f.begun ≤ f.ended) ∧
      (∀ code, s.get? code = none → r.Decided code) ∧
      (∀ c ∈ r.finished, c.call = .close →
        ∀ f ∈ r.finished, c.ended < f.begun →
          f.answer = f.call.refused) ∧
      (∀ p ∈ r.pending, ∀ later,
        let cancelled := r.step clock (.cancel p.begun)
        cancelled.store = r.store ∧
          ∀ f ∈ (run clock later cancelled).finished,
            f.begun ≠ p.begun) := by
  intro r
  have hTimely : Timely r :=
    run_induction clock Timely.step moves (timely_start s)
  rcases run_explained clock s moves with
    ⟨early, late, hOrder⟩
  refine ⟨⟨early ++ late, hOrder.perm, hOrder.in_order,
    hOrder.served, ?_⟩, hTimely.finished_distinct, ?_, ?_, ?_,
    ?_⟩
  · intro links hHolds
    have hServed := hHolds.serve
      ((early ++ late).map (FinishedCall.timed clock))
    rw [hOrder.served] at hServed
    exact hServed
  · intro f hMem
    exact (hTimely.finished_past f hMem).1
  · intro code hFree
    exact run_induction clock Decided.step moves
      (decided_start hFree)
  · intro c hClosing hClose f hMem hAfter
    exact hOrder.refused_of_closed hClosing hClose hMem hAfter
  · intro p hPending later
    have hGone : Gone p.begun
        (run clock later (r.step clock (.cancel p.begun))) :=
      run_induction clock Gone.step later
        (gone_of_cancel hTimely hPending)
    exact ⟨rfl, hGone.not_finished⟩

end Race

end UrlShortener
