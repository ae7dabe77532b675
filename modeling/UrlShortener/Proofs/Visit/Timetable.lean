import UrlShortener.App.Settle
import UrlShortener.Proofs.Visit.Worker

/-
  The law of recording one visit. The replies of the counter
  and the rests between make a timetable of calls, without a
  regard to any limit. The recording follows the timetable
  until a call succeeds, the retries are used up or the time
  is over, whichever comes first.

  Key definitions include:
    * `Timetable`
    * `Timetable.beginsAt?`
    * `Timetable.endsAt?`
    * `Timetable.Records`
    * `Timetable.GivesUp`
    * `Timetable.Outcome`
    * `Timetable.Stands`
    * `Worker.Follows`

  Main declarations:
    * `Timetable.lt_calls_iff`
    * `Recording.wake_tracks`
    * `Worker.record_follows`
    * `Worker.recording_keeps_its_timetable`
-/

------------------------------------------------------------
-- Timetables
------------------------------------------------------------

namespace UrlShortener

/- The fault of a reply, if it has one. -/
def Reply.fault? {ε : Type} : Reply ε → Option ε
| .answers _ fault => fault
| .never => none

/-
  The replies to calls that are made one after another, and
  the rest after each of them.
-/
structure Timetable where
  reply : Nat → Reply CounterFault
  rest : Nat → Nat

namespace Timetable

/- When a call begins, if the calls before it all end. -/
def beginsAt? (t : Timetable) : Nat → Option Nat
| 0 => some 0
| k + 1 =>
    match t.reply k with
    | .answers after _ =>
        (t.beginsAt? k).map (· + after + t.rest k)
    | .never => none

/- When a call ends. -/
def endsAt? (t : Timetable) (k : Nat) : Option Nat :=
  match t.reply k with
  | .answers after _ => (t.beginsAt? k).map (· + after)
  | .never => none

/- A call that begins, or ends, by a limit. -/
def BeginsBy (t : Timetable) (limit k : Nat) : Prop :=
  ∃ time, t.beginsAt? k = some time ∧ time ≤ limit

def EndsBy (t : Timetable) (limit k : Nat) : Prop :=
  ∃ time, t.endsAt? k = some time ∧ time ≤ limit

/- A call that succeeds, or fails. -/
def Succeeds (t : Timetable) (k : Nat) : Prop :=
  ∃ after, t.reply k = .answers after none

def FailsWith
    (t : Timetable)
    (k : Nat)
    (fault : CounterFault) : Prop :=
  ∃ after, t.reply k = .answers after (some fault)

def Fails (t : Timetable) (k : Nat) : Prop :=
  ∃ fault, t.FailsWith k fault

variable {t : Timetable} {limit k : Nat}

theorem not_fails_of_succeeds
    (hSucceeds : t.Succeeds k) : ¬ t.Fails k := by
  rcases hSucceeds with ⟨_, hReply⟩
  rintro ⟨_, _, hOther⟩
  cases hReply.symm.trans hOther

/- After a call that ends and a rest, the next call begins. -/
theorem beginsAt?_succ (t : Timetable) (k : Nat) :
    t.beginsAt? (k + 1) =
      (t.endsAt? k).map (· + t.rest k) := by
  unfold endsAt?
  rw [beginsAt?]
  cases t.reply k with
  | never => rfl
  | answers after fault => rw [Option.map_map]; rfl

theorem endsBy_of_beginsBy_succ
    (hBegins : t.BeginsBy limit (k + 1)) :
    t.EndsBy limit k := by
  rcases hBegins with ⟨time, hTime, hLe⟩
  rw [beginsAt?_succ, Option.map_eq_some_iff] at hTime
  rcases hTime with ⟨ended, hEnds, rfl⟩
  exact ⟨ended, hEnds, Nat.le_of_add_right_le hLe⟩

/- A call that ends was answered, a while after its begin. -/
theorem reply_of_endsAt?
    {time : Nat}
    (hEnds : t.endsAt? k = some time) :
    ∃ begun after,
      t.beginsAt? k = some begun ∧
      t.reply k = .answers after (t.reply k).fault? ∧
      begun + after = time := by
  unfold endsAt? at hEnds
  cases hReply : t.reply k with
  | never =>
      rw [hReply] at hEnds
      cases hEnds
  | answers after fault =>
      rw [hReply] at hEnds
      rcases Option.map_eq_some_iff.mp hEnds with
        ⟨begun, hBegins, hTime⟩
      exact ⟨begun, after, hBegins, rfl, hTime⟩

theorem beginsBy_of_endsBy
    (hEnds : t.EndsBy limit k) : t.BeginsBy limit k := by
  rcases hEnds with ⟨time, hTime, hLe⟩
  rcases reply_of_endsAt? hTime with
    ⟨begun, after, hBegins, _, rfl⟩
  exact ⟨begun, hBegins, Nat.le_of_add_right_le hLe⟩

/- What begins by the limit comes after what does, too. -/
theorem BeginsBy.of_le
    {j : Nat}
    (hBegins : t.BeginsBy limit k)
    (hLe : j ≤ k) : t.BeginsBy limit j := by
  induction hLe with
  | refl => exact hBegins
  | step _ ih =>
      exact ih (beginsBy_of_endsBy
        (endsBy_of_beginsBy_succ hBegins))

end Timetable

end UrlShortener

------------------------------------------------------------
-- Outcomes
------------------------------------------------------------

namespace UrlShortener

namespace Timetable

/- A call is the first to succeed, in time and in turn. -/
structure Records
    (t : Timetable)
    (rules : RecordingRules)
    (k : Nat) : Prop where
  inTurn : k ≤ rules.retries
  failed : ∀ j < k, t.Fails j
  succeeds : t.Succeeds k
  inTime : t.EndsBy rules.limit k

/- All calls fail in time, the last of them with a fault. -/
structure GivesUp
    (t : Timetable)
    (rules : RecordingRules)
    (fault : CounterFault) : Prop where
  failed : ∀ j < rules.retries, t.Fails j
  last : t.FailsWith rules.retries fault
  inTime : t.EndsBy rules.limit rules.retries

/-
  How a recording may end, after how many calls: with the
  call that succeeds, with the last that may be made, or at
  its limit, during a call or during the rest after one.
-/
inductive Outcome
    (t : Timetable)
    (rules : RecordingRules) :
    Nat → Except CounterFault Unit → Prop where
| recorded
    {k : Nat}
    (hRecords : t.Records rules k) :
    Outcome t rules (k + 1) (.ok ())
| givenUp
    {fault : CounterFault}
    (hGivesUp : t.GivesUp rules fault) :
    Outcome t rules (rules.retries + 1) (.error fault)
| overdueCall
    {k : Nat}
    (hInTurn : k ≤ rules.retries)
    (hFailed : ∀ j < k, t.Fails j)
    (hBegins : t.BeginsBy rules.limit k)
    (hLate : ¬ t.EndsBy rules.limit k) :
    Outcome t rules (k + 1)
      (.error (.timeout (.ofMillis rules.limit)))
| overdueRest
    {k : Nat}
    (hInTurn : k < rules.retries)
    (hFailed : ∀ j ≤ k, t.Fails j)
    (hEnds : t.EndsBy rules.limit k)
    (hLate : ¬ t.BeginsBy rules.limit (k + 1)) :
    Outcome t rules (k + 1)
      (.error (.timeout (.ofMillis rules.limit)))

variable {t : Timetable} {rules : RecordingRules}
variable {calls : Nat} {result : Except CounterFault Unit}

/-
  The calls that are made are those in turn whose time has
  come by the limit, after calls that have all failed.
-/
theorem lt_calls_iff
    (hOutcome : t.Outcome rules calls result)
    (k : Nat) :
    k < calls ↔
      k ≤ rules.retries ∧ (∀ j < k, t.Fails j) ∧
        t.BeginsBy rules.limit k := by
  have hMade
      {n : Nat}
      (hInTurn : n ≤ rules.retries)
      (hFailed : ∀ j < n, t.Fails j)
      (hBegins : t.BeginsBy rules.limit n)
      (hLess : k < n + 1) :
      k ≤ rules.retries ∧ (∀ j < k, t.Fails j) ∧
        t.BeginsBy rules.limit k := by
    have hLe := Nat.le_of_lt_succ hLess
    exact ⟨hLe.trans hInTurn,
      fun j hJ => hFailed j (Nat.lt_of_lt_of_le hJ hLe),
      hBegins.of_le hLe⟩
  have hNoMore
      {n : Nat}
      (hStop : ¬ (n < rules.retries ∧ t.Fails n ∧
        t.BeginsBy rules.limit (n + 1)))
      (hCalled :
        k ≤ rules.retries ∧ (∀ j < k, t.Fails j) ∧
          t.BeginsBy rules.limit k) :
      k < n + 1 := by
    by_contra hMore
    have hLt : n < k := Nat.lt_of_succ_le (Nat.not_lt.mp hMore)
    exact hStop ⟨Nat.lt_of_lt_of_le hLt hCalled.1,
      hCalled.2.1 n hLt, hCalled.2.2.of_le hLt⟩
  cases hOutcome with
  | recorded hRecords =>
      refine ⟨hMade hRecords.inTurn hRecords.failed
        (beginsBy_of_endsBy hRecords.inTime), hNoMore ?_⟩
      rintro ⟨_, hFails, _⟩
      exact not_fails_of_succeeds hRecords.succeeds hFails
  | givenUp hGivesUp =>
      refine ⟨hMade (Nat.le_refl _) hGivesUp.failed
        (beginsBy_of_endsBy hGivesUp.inTime), hNoMore ?_⟩
      rintro ⟨hLt, _⟩
      exact Nat.lt_irrefl _ hLt
  | overdueCall hInTurn hFailed hBegins hLate =>
      refine ⟨hMade hInTurn hFailed hBegins, hNoMore ?_⟩
      rintro ⟨_, _, hNext⟩
      exact hLate (endsBy_of_beginsBy_succ hNext)
  | overdueRest hInTurn hFailed hEnds hLate =>
      refine ⟨hMade hInTurn.le (fun j hJ => hFailed j hJ.le)
        (beginsBy_of_endsBy hEnds), hNoMore ?_⟩
      rintro ⟨_, _, hNext⟩
      exact hLate hNext

/- The last call that is made is the first that succeeds. -/
theorem Records.outcome
    {k : Nat}
    (hRecords : t.Records rules k)
    (hOutcome : t.Outcome rules calls result) :
    result = .ok () ∧ calls = k + 1 := by
  have hCalls := lt_calls_iff hOutcome
  have hMade : k < calls :=
    (hCalls k).mpr ⟨hRecords.inTurn, hRecords.failed,
      beginsBy_of_endsBy hRecords.inTime⟩
  have hSucceeds := not_fails_of_succeeds hRecords.succeeds
  have hLast : ¬ k + 1 < calls := by
    intro hMore
    exact hSucceeds
      (((hCalls (k + 1)).mp hMore).2.1 k (Nat.lt_succ_self k))
  obtain rfl : calls = k + 1 := by omega
  refine ⟨?_, rfl⟩
  cases hOutcome with
  | recorded _ => rfl
  | givenUp hGivesUp =>
      exact absurd ⟨_, hGivesUp.last⟩ hSucceeds
  | overdueCall _ _ _ hLate =>
      exact absurd hRecords.inTime hLate
  | overdueRest _ hFailed _ _ =>
      exact absurd (hFailed _ (Nat.le_refl _)) hSucceeds

/- If all calls fail in time, so does the recording. -/
theorem GivesUp.outcome
    {fault : CounterFault}
    (hGivesUp : t.GivesUp rules fault)
    (hOutcome : t.Outcome rules calls result) :
    result = .error fault ∧ calls = rules.retries + 1 := by
  have hCalls := lt_calls_iff hOutcome
  have hMade : rules.retries < calls :=
    (hCalls _).mpr ⟨Nat.le_refl _, hGivesUp.failed,
      beginsBy_of_endsBy hGivesUp.inTime⟩
  have hLast : ¬ rules.retries + 1 < calls := by
    intro hMore
    exact Nat.not_succ_le_self _ ((hCalls _).mp hMore).1
  have hAll : calls = rules.retries + 1 := by omega
  refine ⟨?_, hAll⟩
  cases hOutcome with
  | recorded hRecords =>
      cases hAll
      exact absurd ⟨_, hGivesUp.last⟩
        (not_fails_of_succeeds hRecords.succeeds)
  | givenUp hOther =>
      rcases hGivesUp.last with ⟨_, hReply⟩
      rcases hOther.last with ⟨_, hSame⟩
      cases hReply.symm.trans hSame
      rfl
  | overdueCall _ _ _ hLate =>
      cases hAll
      exact absurd hGivesUp.inTime hLate
  | overdueRest hInTurn _ _ _ =>
      cases hAll
      exact absurd hInTurn (Nat.lt_irrefl _)

/- If neither comes in time, the recording takes too long. -/
theorem overdue_of_undecided
    (hNoRecord : ∀ k, ¬ t.Records rules k)
    (hNoGivingUp : ∀ fault, ¬ t.GivesUp rules fault)
    (hOutcome : t.Outcome rules calls result) :
    result = .error (.timeout (.ofMillis rules.limit)) := by
  cases hOutcome with
  | recorded hRecords => exact absurd hRecords (hNoRecord _)
  | givenUp hGivesUp => exact absurd hGivesUp (hNoGivingUp _)
  | overdueCall => rfl
  | overdueRest => rfl

end Timetable

end UrlShortener

------------------------------------------------------------
-- Recordings That Follow A Timetable
------------------------------------------------------------

namespace UrlShortener

/- The reply to a call to come, counted from zero. -/
def CounterBackend.replyAt
    (b : CounterBackend)
    (k : Nat) : Reply CounterFault :=
  (b.increments[k]?).getD .prompt

namespace Timetable

/-
  What a recording waits for after its calls, if it follows
  a timetable: the answer of the last call, or the time of
  the next one.
-/
inductive Stands
    (t : Timetable)
    (rules : RecordingRules) : Nat → Awaited → Prop where
| calling
    {k : Nat}
    (hInTurn : k ≤ rules.retries)
    (hFailed : ∀ j < k, t.Fails j)
    (hBegins : t.BeginsBy rules.limit k) :
    Stands t rules (k + 1)
      (.answer (t.endsAt? k) (t.reply k).fault?)
| resting
    {k time : Nat}
    (hInTurn : k < rules.retries)
    (hFailed : ∀ j ≤ k, t.Fails j)
    (hEnds : t.EndsBy rules.limit k)
    (hNext : t.beginsAt? (k + 1) = some time) :
    Stands t rules (k + 1) (.retry time)

end Timetable

/- The first recording of a worker, for a code. -/
structure Recording.IsFirst
    (rules : RecordingRules)
    (code : String)
    (r : Recording) : Prop where
  number_eq : r.number = 0
  code_eq : r.code = code
  limit_eq : r.limit = rules.limit

/-
  How a recording goes on after its calls, each of which has
  taken a reply of the counter.
-/
inductive Timetable.Tracks
    (t : Timetable)
    (rules : RecordingRules)
    (code : String)
    (b : CounterBackend)
    (calls : Nat) : Course × CounterBackend → Prop where
| ended
    {result : Except CounterFault Unit}
    {after : CounterBackend}
    (hOutcome : t.Outcome rules calls result)
    (hReplies : after.increments = b.increments.drop calls) :
    Tracks t rules code b calls (.ended result, after)
| waits
    {r : Recording}
    {after : CounterBackend}
    (hFirst : r.IsFirst rules code)
    (hCalls : r.calls = calls)
    (hStands : t.Stands rules calls r.awaited)
    (hReplies : after.increments = b.increments.drop calls) :
    Tracks t rules code b calls (.waiting r, after)

/- The timetable of the first recording at a counter. -/
def CounterBackend.timetable
    (b : CounterBackend)
    (rest : Nat → Nat → Nat) : Timetable :=
  ⟨b.replyAt, rest 0⟩

namespace Recording

open Timetable (Stands Tracks)

variable {rules : RecordingRules} {rest : Nat → Nat → Nat}
variable {code : String} {b after : CounterBackend}
variable {r : Recording} {k now : Nat}

/- An answer ends the recording, or a rest begins. -/
theorem answered_tracks
    {fault : Option CounterFault}
    (hFirst : r.IsFirst rules code)
    (hCalls : r.calls = k + 1)
    (hInTurn : k ≤ rules.retries)
    (hFailed : ∀ j < k, (b.timetable rest).Fails j)
    (hReply : ∃ ms, b.replyAt k = .answers ms fault)
    (hEnds : (b.timetable rest).endsAt? k = some now)
    (hTime : now ≤ rules.limit)
    (hReplies : after.increments = b.increments.drop (k + 1)) :
    (b.timetable rest).Tracks rules code b (k + 1)
      (answered rules rest now fault r after) := by
  have hInTime : (b.timetable rest).EndsBy rules.limit k :=
    ⟨now, hEnds, hTime⟩
  cases fault with
  | none =>
      have hRecords :
          (b.timetable rest).Records rules k :=
        ⟨hInTurn, hFailed, hReply, hInTime⟩
      exact .ended (.recorded hRecords) hReplies
  | some fault =>
      unfold answered
      dsimp only
      split
      · rename_i hRetries
        refine .waits
          ⟨hFirst.number_eq, hFirst.code_eq, hFirst.limit_eq⟩
          hCalls ?_ hReplies
        rw [hCalls] at hRetries
        refine .resting hRetries ?_ hInTime ?_
        · intro j hJ
          rcases Nat.lt_or_eq_of_le hJ with hBefore | rfl
          · exact hFailed j hBefore
          · exact ⟨fault, hReply⟩
        · rw [Timetable.beginsAt?_succ, hEnds,
            hFirst.number_eq, hCalls]
          rfl
      · rename_i hRetries
        rw [hCalls] at hRetries
        obtain rfl : k = rules.retries := by omega
        exact .ended (.givenUp ⟨hFailed, hReply, hInTime⟩)
          hReplies

/- A call takes its reply and is answered or waited for. -/
theorem call_tracks
    (hFirst : r.IsFirst rules code)
    (hCalls : r.calls = k)
    (hInTurn : k ≤ rules.retries)
    (hFailed : ∀ j < k, (b.timetable rest).Fails j)
    (hBegins : (b.timetable rest).beginsAt? k = some now)
    (hTime : now ≤ rules.limit)
    (hReplies : after.increments = b.increments.drop k) :
    (b.timetable rest).Tracks rules code b (k + 1)
      (call rules rest now r after) := by
  have hNext :
      after.beginIncrement =
        (b.replyAt k,
          { after with
              increments := b.increments.drop (k + 1) }) := by
    unfold CounterBackend.beginIncrement
    rw [Reply.next_eq, hReplies, List.getElem?_drop,
      List.drop_drop, Nat.add_zero]
    rfl
  have hCalled :
      ({ r with calls := r.calls + 1 } : Recording).IsFirst
        rules code :=
    ⟨hFirst.number_eq, hFirst.code_eq, hFirst.limit_eq⟩
  have hWaits {awaited : Awaited}
      (hAwaited :
        awaited =
          .answer ((b.timetable rest).endsAt? k)
            (b.replyAt k).fault?) :
      (b.timetable rest).Tracks rules code b (k + 1)
        (.waiting { r with calls := r.calls + 1, awaited },
          { after with
              increments := b.increments.drop (k + 1) }) := by
    subst hAwaited
    exact .waits
      ⟨hFirst.number_eq, hFirst.code_eq, hFirst.limit_eq⟩
      (congrArg (· + 1) hCalls)
      (.calling hInTurn hFailed ⟨now, hBegins, hTime⟩) rfl
  simp only [call, hNext]
  cases hReply : b.replyAt k with
  | never =>
      apply hWaits
      simp only [Timetable.endsAt?, CounterBackend.timetable,
        hReply, Reply.fault?]
  | answers ms fault =>
      have hEnds :
          (b.timetable rest).endsAt? k = some (now + ms) := by
        unfold Timetable.endsAt?
        simp only [CounterBackend.timetable, hReply]
        exact congrArg (Option.map (· + ms)) hBegins
      cases ms with
      | zero =>
          exact answered_tracks hCalled
            (congrArg (· + 1) hCalls) hInTurn hFailed
            ⟨0, hReply⟩ hEnds hTime rfl
      | succ ms =>
          apply hWaits
          rw [hEnds, hReply]
          rfl

/- The first call is made at once. -/
theorem start_tracks
    (code : String)
    (b : CounterBackend) :
    (b.timetable rest).Tracks rules code b 1
      (start rules rest 0 0 code b) :=
  call_tracks ⟨rfl, rfl, Nat.zero_add rules.limit⟩ rfl
    (Nat.zero_le _) nofun rfl (Nat.zero_le _) rfl

/- Woken during a call, a recording takes its answer. -/
theorem wake_call_tracks
    {at_ : Option Nat}
    {fault : Option CounterFault}
    (hFirst : r.IsFirst rules code)
    (hCalls : r.calls = k)
    (hAwaited : r.awaited = .answer at_ fault)
    (hStands :
      (b.timetable rest).Stands rules k (.answer at_ fault))
    (hReplies : after.increments = b.increments.drop k) :
    (b.timetable rest).Tracks rules code b k
      (r.wake rules rest after) := by
  unfold wake
  rw [hAwaited]
  cases hStands with
  | @calling k hInTurn hFailed hBegins =>
      have hLate
          (hNot : ¬ (b.timetable rest).EndsBy rules.limit k) :
          (b.timetable rest).Tracks rules code b (k + 1)
            (overdue rules, after) :=
        .ended (.overdueCall hInTurn hFailed hBegins hNot)
          hReplies
      cases hEnds : (b.timetable rest).endsAt? k with
      | none =>
          apply hLate
          rintro ⟨time, hTime, _⟩
          cases hEnds.symm.trans hTime
      | some time =>
          dsimp only
          rw [hFirst.limit_eq]
          split
          · rename_i hTime
            rcases Timetable.reply_of_endsAt? hEnds with
              ⟨_, after, _, hReply, _⟩
            exact answered_tracks hFirst hCalls hInTurn hFailed
              ⟨after, hReply⟩ hEnds hTime hReplies
          · rename_i hTime
            apply hLate
            rintro ⟨other, hOther, hLe⟩
            cases hEnds.symm.trans hOther
            exact hTime hLe

/- Woken after a rest, it calls again if it is in time. -/
theorem wake_rest_tracks
    {time : Nat}
    (hFirst : r.IsFirst rules code)
    (hCalls : r.calls = k)
    (hAwaited : r.awaited = .retry time)
    (hStands :
      (b.timetable rest).Stands rules k (.retry time))
    (hReplies : after.increments = b.increments.drop k) :
    (b.timetable rest).Tracks rules code b
      (if time ≤ r.limit then k + 1 else k)
      (r.wake rules rest after) := by
  unfold wake
  rw [hAwaited]
  cases hStands with
  | resting hInTurn hFailed hEnds hNext =>
      dsimp only
      rw [hFirst.limit_eq]
      split
      · rename_i hTime
        exact call_tracks hFirst hCalls hInTurn
          (fun j hJ => hFailed j (Nat.le_of_lt_succ hJ)) hNext
          hTime hReplies
      · rename_i hTime
        refine .ended
          (.overdueRest hInTurn hFailed hEnds ?_) hReplies
        rintro ⟨other, hOther, hLe⟩
        cases hNext.symm.trans hOther
        exact hTime hLe

end Recording

end UrlShortener

------------------------------------------------------------
-- The Worker With One Visit
------------------------------------------------------------

namespace UrlShortener

namespace Worker

/-
  A worker with one visit, as the timetable tells: it has
  yet to start it, is recording it, or has its result.
-/
inductive Follows
    (t : Timetable)
    (rules : RecordingRules)
    (code : String)
    (b : CounterBackend) : Worker → Prop where
| ready : Follows t rules code b (init [code] b)
| busy
    {w : Worker}
    {r : Recording}
    (hWaiting : w.waiting = [])
    (hUnderWay : w.underWay = [r])
    (hResults : w.results = [])
    (hFirst : r.IsFirst rules code)
    (hCalls : r.calls = w.calls)
    (hStands : t.Stands rules w.calls r.awaited)
    (hReplies :
      w.counter.increments = b.increments.drop w.calls) :
    Follows t rules code b w
| finished
    {w : Worker}
    {result : Except CounterFault Unit}
    (hWaiting : w.waiting = [])
    (hUnderWay : w.underWay = [])
    (hResults : w.results = [(code, result)])
    (hOutcome : t.Outcome rules w.calls result)
    (hReplies :
      w.counter.increments = b.increments.drop w.calls) :
    Follows t rules code b w

variable {t : Timetable} {rules : RecordingRules}
variable {rest : Nat → Nat → Nat} {code : String}
variable {b : CounterBackend} {w : Worker}

/- An idle worker notes how the recording goes on. -/
theorem Follows.noteCourse
    {course : Course × CounterBackend}
    (hWaiting : w.waiting = [])
    (hUnderWay : w.underWay = [])
    (hResults : w.results = [])
    (hTracks : t.Tracks rules code b w.calls course) :
    Follows t rules code b (w.noteCourse code course) := by
  cases hTracks with
  | ended hOutcome hReplies =>
      refine .finished hWaiting hUnderWay ?_ hOutcome hReplies
      rw [Worker.noteCourse, hResults]
      rfl
  | waits hFirst hCalls hStands hReplies =>
      refine .busy hWaiting ?_ hResults hFirst hCalls hStands
        hReplies
      rw [Worker.noteCourse, hUnderWay]
      rfl

/- Given one visit, an idle worker starts it. -/
theorem startVisits_init
    (rules : RecordingRules)
    (rest : Nat → Nat → Nat)
    (code : String)
    (b : CounterBackend) :
    (init [code] b).startVisits rules rest [code] =
      { init [] b with
          started := 1, calls := 1, peak := 1 }.noteCourse code
        (Recording.start rules rest 0 0 code b) := by
  have hFree :
      (init [code] b).underWay.length <
        max 1 rules.concurrency :=
    Nat.lt_of_lt_of_le Nat.one_pos (Nat.le_max_left _ _)
  rw [startVisits, if_pos hFree, startVisits, startVisit]
  dsimp only [init, noteCall]
  rcases Recording.start rules rest 0 0 code b with
    ⟨result | r, after⟩
  · rfl
  · rfl

/- Starting visits is in keeping with the timetable. -/
theorem Follows.startVisits
    (hFollows : w.Follows (b.timetable rest) rules code b) :
    (w.startVisits rules rest w.waiting).Follows
      (b.timetable rest) rules code b := by
  cases hFollows with
  | ready =>
      change ((init [code] b).startVisits rules rest
        [code]).Follows (b.timetable rest) rules code b
      rw [startVisits_init]
      exact .noteCourse rfl rfl rfl
        (Recording.start_tracks code b)
  | busy hWaiting hUnderWay hResults hFirst hCalls hStands
      hReplies =>
      rw [hWaiting]
      exact .busy rfl hUnderWay hResults hFirst hCalls hStands
        hReplies
  | finished hWaiting hUnderWay hResults hOutcome hReplies =>
      rw [hWaiting]
      exact .finished rfl hUnderWay hResults hOutcome hReplies

/- So is going on with the recording that is due. -/
theorem Follows.wakeDue
    {time : Nat}
    (hDue : w.nextDue? = some time)
    (hFollows : w.Follows (b.timetable rest) rules code b) :
    (w.wakeDue rules rest time).Follows
      (b.timetable rest) rules code b := by
  cases hFollows with
  | ready => cases hDue
  | finished _ hUnderWay _ _ _ =>
      rw [nextDue?, hUnderWay] at hDue
      cases hDue
  | @busy _ r hWaiting hUnderWay hResults hFirst hCalls hStands
      hReplies =>
      obtain rfl : r.due = time := by
        simpa [nextDue?, hUnderWay] using hDue
      have hWake :
          w.wakeDue rules rest r.due =
            { w with
                now := r.due
                underWay := [] }.wakeOne rules rest r := by
        simp [Worker.wakeDue, hUnderWay]
      rw [hWake, wakeOne]
      cases hAwaited : r.awaited with
      | answer at_ fault =>
          rw [hAwaited] at hStands
          simp only [Bool.false_eq_true, if_false]
          rw [hFirst.code_eq]
          exact .noteCourse hWaiting rfl hResults
            (Recording.wake_call_tracks hFirst hCalls hAwaited
              hStands hReplies)
      | retry at_ =>
          rw [hAwaited] at hStands
          have hTracks :=
            Recording.wake_rest_tracks hFirst hCalls hAwaited
              hStands hReplies
          simp only [decide_eq_true_eq]
          rw [hFirst.code_eq]
          split
          · rename_i hTime
            rw [if_pos hTime] at hTracks
            exact .noteCourse hWaiting rfl hResults hTracks
          · rename_i hTime
            rw [if_neg hTime] at hTracks
            exact .noteCourse hWaiting rfl hResults hTracks

/- A run with one visit ends as the timetable tells. -/
theorem record_follows
    (rules : RecordingRules)
    (rest : Nat → Nat → Nat)
    (code : String)
    (b : CounterBackend) :
    ∃ result,
      (record rules rest code b).results = [(code, result)] ∧
      (b.timetable rest).Outcome rules
        (record rules rest code b).calls result ∧
      (record rules rest code b).counter.increments =
        b.increments.drop (record rules rest code b).calls := by
  have hFollows :
      (record rules rest code b).Follows (b.timetable rest)
        rules code b :=
    loop_induction rules rest Follows.startVisits
      Follows.wakeDue .ready (fuelFor b)
  rcases run_done rules rest [code] b with ⟨hIdle, hNone⟩
  change (record rules rest code b).waiting = [] at hIdle
  change (record rules rest code b).underWay = [] at hNone
  generalize record rules rest code b = w at *
  cases hFollows with
  | ready => cases hIdle
  | busy _ hUnderWay _ _ _ _ _ =>
      cases hNone.symm.trans hUnderWay
  | finished _ _ hResults hOutcome hReplies =>
      exact ⟨_, hResults, hOutcome, hReplies⟩

/-
  The law of recording a visit, whatever the counter replies
  and however long the rests are. The first call to succeed
  ends it, if that is in time and in turn; if all calls that
  may be made fail in time, the last fault is its result;
  otherwise it has taken too long. The calls made are those
  in turn after failed ones whose time has come by the limit.
  Just one total rises by one, and the visit is counted if
  it was recorded.
-/
theorem recording_keeps_its_timetable
    (rules : RecordingRules)
    (rest : Nat → Nat → Nat)
    (code : String)
    (b : CounterBackend) :
    let w := record rules rest code b
    let t := b.timetable rest
    ∃ result,
      w.results = [(code, result)] ∧
      (∀ k, t.Records rules k →
        result = .ok () ∧ w.calls = k + 1) ∧
      (∀ fault, t.GivesUp rules fault →
        result = .error fault ∧
          w.calls = rules.retries + 1) ∧
      ((∀ k, ¬ t.Records rules k) →
        (∀ fault, ¬ t.GivesUp rules fault) →
          result = .error (.timeout (.ofMillis rules.limit))) ∧
      w.calls ≤ rules.retries + 1 ∧
      (∀ k, k < w.calls ↔
        k ≤ rules.retries ∧ (∀ j < k, t.Fails j) ∧
          t.BeginsBy rules.limit k) ∧
      w.counter.increments = b.increments.drop w.calls ∧
      (∀ m : Metrics,
        App.noteResults m w =
          if result = .ok () then
            { m with visitsRecorded := m.visitsRecorded + 1 }
          else
            { m with visitsFailed := m.visitsFailed + 1 }) ∧
      (∀ other,
        w.counter.tally.count other =
          b.tally.count other +
            if result = .ok () ∧ other = code then 1 else 0) := by
  intro w t
  rcases record_follows rules rest code b with
    ⟨result, hResults, hOutcome, hReplies⟩
  change w.results = [(code, result)] at hResults
  have hCalls := Timetable.lt_calls_iff hOutcome
  refine ⟨result, hResults, ?_, ?_, ?_, ?_, hCalls, hReplies,
    ?_, ?_⟩
  · intro k hRecords
    exact hRecords.outcome hOutcome
  · intro fault hGivesUp
    exact hGivesUp.outcome hOutcome
  · intro hNoRecord hNoGivingUp
    exact Timetable.overdue_of_undecided hNoRecord hNoGivingUp
      hOutcome
  · by_contra hMore
    have hBeyond := (hCalls _).mp (Nat.not_le.mp hMore)
    exact Nat.not_succ_le_self _ hBeyond.1
  · intro m
    unfold App.noteResults recorded failed
    rw [hResults]
    cases result with
    | ok _ => rfl
    | error fault => rfl
  · intro other
    have hCount := run_count rules rest [code] b other
    change w.counter.tally.count other =
      b.tally.count other + w.recordedCodes.count other at hCount
    rw [hCount, recordedCodes, hResults]
    cases result with
    | ok _ =>
        by_cases hOther : other = code
        · subst hOther
          simp [Except.isOk, Except.toBool]
        · have hCode : code ≠ other := fun h => hOther h.symm
          simp [Except.isOk, Except.toBool, hOther, hCode]
    | error fault => simp [Except.isOk, Except.toBool]

/-
  The first call fails after 30 milliseconds, the second
  succeeds 10 milliseconds after a rest of 60, at the limit.
-/
theorem sample_recording_keeps_its_timetable :
    let b : CounterBackend :=
      { CounterBackend.fresh with
          increments :=
            [.answers 30 (some (.backend "down")),
              .answers 10 none] }
    let w := record ⟨1, 100, 3⟩ (fun _ _ => 60) "abc" b
    w.results = [("abc", .ok ())] ∧ w.calls = 2 ∧
      w.counter.tally.count "abc" = 1 := by
  intro b w
  subst w
  rcases recording_keeps_its_timetable ⟨1, 100, 3⟩
      (fun _ _ => 60) "abc" b with
    ⟨result, hResults, hRecorded, _, _, _, _, _, _, hCount⟩
  have hRecords :
      (b.timetable fun _ _ => 60).Records ⟨1, 100, 3⟩ 1 := by
    refine ⟨by decide, ?_, ⟨10, rfl⟩, 100, rfl, Nat.le_refl _⟩
    intro j hJ
    obtain rfl : j = 0 := Nat.lt_one_iff.mp hJ
    exact ⟨.backend "down", 30, rfl⟩
  rcases hRecorded 1 hRecords with ⟨rfl, hCalls⟩
  have hNone : b.tally.count "abc" = 0 := rfl
  have hTally := hCount "abc"
  rw [if_pos ⟨rfl, rfl⟩, hNone] at hTally
  exact ⟨hResults, hCalls, hTally⟩

end Worker

end UrlShortener
