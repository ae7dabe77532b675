import UrlShortener.Proofs.Backend.Reply
import UrlShortener.Visit.Recording

/-
  The recording of one visit. Whatever the counter replies,
  a visit is counted once, when its recording ends well, and
  never otherwise; and every time a recording goes on, it
  comes closer to its end.

  Key definitions include:
    * `Recording.weight`
    * `Course.Books`
    * `Course.Sure`

  Main declarations:
    * `Tally.count_increment`
    * `Recording.wake_books`
    * `Recording.wake_cost`
    * `Recording.wake_sure`
-/

------------------------------------------------------------
-- Tallies
------------------------------------------------------------

namespace UrlShortener

namespace Tally

@[simp] theorem count_nil (code : String) :
    (Tally.mk []).count code = 0 := rfl

theorem count_cons
    (name code : String)
    (n : Nat)
    (counts : List (String × Nat)) :
    (Tally.mk ((name, n) :: counts)).count code =
      if name = code then n
      else (Tally.mk counts).count code := by
  unfold count
  rw [List.find?_cons]
  by_cases hName : name = code
  · simp [hName]
  · have hOther : (name == code) = false := by
      simpa using hName
    rw [if_neg hName, hOther]

theorem count_bump
    (code other : String)
    (counts : List (String × Nat)) :
    (Tally.mk (bump code counts)).count other =
      (Tally.mk counts).count other +
        if code = other then 1 else 0 := by
  induction counts with
  | nil => rw [bump, count_cons, count_nil, Nat.zero_add]
  | cons entry counts ih =>
      rcases entry with ⟨name, n⟩
      rw [bump]
      by_cases hName : name = code
      · subst hName
        rw [if_pos rfl, count_cons, count_cons]
        by_cases hOther : name = other
        · simp [hOther]
        · simp [hOther]
      · rw [if_neg hName, count_cons, count_cons, ih]
        by_cases hOther : name = other
        · have hCode : code ≠ other := by
            intro hCode
            exact hName (hOther.trans hCode.symm)
          simp [hOther, hCode]
        · simp [hOther]

/- Counting a visit adds one to its code and to no other. -/
theorem count_increment
    (t : Tally)
    (code other : String) :
    (t.increment code).count other =
      t.count other + if code = other then 1 else 0 :=
  count_bump code other t.counts

end Tally

end UrlShortener

------------------------------------------------------------
-- Counted Once Or Not At All
------------------------------------------------------------

namespace UrlShortener

/-
  How the recording of a visit of a code may go on: it ends
  well and the visit is counted, it ends badly and nothing
  is, or it waits on for the same visit and nothing is.
-/
inductive Course.Books
    (code : String)
    (tally : Tally) : Course × CounterBackend → Prop where
| recorded
    {b : CounterBackend}
    (hTally : b.tally = tally.increment code) :
    Books code tally (.ended (.ok ()), b)
| failed
    {fault : CounterFault}
    {b : CounterBackend}
    (hTally : b.tally = tally) :
    Books code tally (.ended (.error fault), b)
| waits
    {r : Recording}
    {b : CounterBackend}
    (hCode : r.code = code)
    (hTally : b.tally = tally) :
    Books code tally (.waiting r, b)

namespace Recording

variable (rules : RecordingRules) (rest : Nat → Nat → Nat)

theorem answered_books
    (now : Nat)
    (fault : Option CounterFault)
    (r : Recording)
    (b : CounterBackend) :
    Course.Books r.code b.tally
      (answered rules rest now fault r b) := by
  cases fault with
  | none => exact .recorded rfl
  | some fault =>
      unfold answered
      dsimp only
      split
      · exact .waits rfl rfl
      · exact .failed rfl

theorem call_books
    (now : Nat)
    (r : Recording)
    (b : CounterBackend) :
    Course.Books r.code b.tally (call rules rest now r b) := by
  unfold call
  dsimp only
  split
  · rename_i fault _
    exact answered_books rules rest now fault
      { r with calls := r.calls + 1 } b.beginIncrement.2
  · exact .waits rfl rfl
  · exact .waits rfl rfl

theorem start_books
    (now number : Nat)
    (code : String)
    (b : CounterBackend) :
    Course.Books code b.tally
      (start rules rest now number code b) := by
  unfold start
  exact call_books rules rest now
    { number, code, limit := now + rules.limit, calls := 0
      awaited := .retry now } b

theorem wake_books
    (r : Recording)
    (b : CounterBackend) :
    Course.Books r.code b.tally (r.wake rules rest b) := by
  unfold wake
  split
  · exact .failed rfl
  · split
    · exact answered_books rules rest _ _ r b
    · exact .failed rfl
  · split
    · exact call_books rules rest _ r b
    · exact .failed rfl

end Recording

end UrlShortener

------------------------------------------------------------
-- The Cost Of Going On
------------------------------------------------------------

namespace UrlShortener

namespace Recording

/- How often a recording may go on before it makes a call. -/
def weight (r : Recording) : Nat :=
  match r.awaited with
  | .answer _ _ => 2
  | .retry _ => 1

end Recording

namespace Course

def weight : Course → Nat
| .ended _ => 0
| .waiting r => r.weight

end Course

/- A call takes the next reply, or is carried out at once. -/
theorem CounterBackend.beginIncrement_cases
    (b : CounterBackend) :
    (b.increments = [] ∧
      b.beginIncrement = (.answers 0 none, b)) ∨
    ∃ reply replies,
      b.increments = reply :: replies ∧
        b.beginIncrement =
          (reply, { b with increments := replies }) := by
  rcases b with ⟨tally, _ | ⟨reply, replies⟩, gets, pings⟩
  · exact Or.inl ⟨rfl, rfl⟩
  · exact Or.inr ⟨reply, replies, rfl, rfl⟩

namespace Recording

variable (rules : RecordingRules) (rest : Nat → Nat → Nat)

/- An answer is followed by a rest at most. -/
theorem answered_cost
    (now : Nat)
    (fault : Option CounterFault)
    (r : Recording)
    (b : CounterBackend) :
    (answered rules rest now fault r b).1.weight ≤ 1 ∧
      (answered rules rest now fault r b).2.increments =
        b.increments := by
  cases fault with
  | none => exact ⟨Nat.zero_le 1, rfl⟩
  | some fault =>
      unfold answered
      dsimp only
      split
      · exact ⟨Nat.le_refl 1, rfl⟩
      · exact ⟨Nat.zero_le 1, rfl⟩

/- A call is paid for by the reply that it takes. -/
theorem call_cost
    (now : Nat)
    (r : Recording)
    (b : CounterBackend) :
    (call rules rest now r b).1.weight +
        2 * (call rules rest now r b).2.increments.length ≤
      2 * b.increments.length := by
  rcases b.beginIncrement_cases with
    ⟨_, hBegin⟩ | ⟨reply, replies, hReplies, hBegin⟩
  · simp only [call, hBegin, answered]
    exact Nat.le_of_eq (Nat.zero_add _)
  · have hLength :
        2 * b.increments.length = 2 + 2 * replies.length := by
      rw [hReplies, List.length_cons]
      omega
    rw [hLength]
    simp only [call, hBegin]
    rcases reply with ⟨_ | after, fault⟩ | _
    · have hAnswered := answered_cost rules rest now fault
        { r with calls := r.calls + 1 }
        { b with increments := replies }
      simp only [hAnswered.2]
      exact Nat.add_le_add_right
        (Nat.le_succ_of_le hAnswered.1) _
    · exact Nat.le_refl _
    · exact Nat.le_refl _

theorem start_cost
    (now number : Nat)
    (code : String)
    (b : CounterBackend) :
    (start rules rest now number code b).1.weight +
        2 * (start rules rest now number code
          b).2.increments.length ≤
      2 * b.increments.length :=
  call_cost rules rest now _ b

/- Every time a recording goes on, it gets lighter. -/
theorem wake_cost
    (r : Recording)
    (b : CounterBackend) :
    (r.wake rules rest b).1.weight +
        2 * (r.wake rules rest b).2.increments.length <
      r.weight + 2 * b.increments.length := by
  unfold wake weight
  cases hAwaited : r.awaited with
  | answer at_ fault =>
      cases at_ with
      | none =>
          simp only [overdue, Course.weight]
          omega
      | some at_ =>
          by_cases hTime : at_ ≤ r.limit
          · simp only [if_pos hTime]
            have hAnswered :=
              answered_cost rules rest at_ fault r b
            rw [hAnswered.2]
            omega
          · simp only [if_neg hTime, overdue, Course.weight]
            omega
  | retry at_ =>
      by_cases hTime : at_ ≤ r.limit
      · simp only [if_pos hTime]
        have hCall := call_cost rules rest at_ r b
        omega
      · simp only [if_neg hTime, overdue, Course.weight]
        omega

/- No reply comes from nowhere. -/
theorem call_increments_subset
    (now : Nat)
    (r : Recording)
    (b : CounterBackend) :
    (call rules rest now r b).2.increments ⊆
      b.increments := by
  have hNext :
      b.beginIncrement.2.increments ⊆ b.increments := by
    rcases b.beginIncrement_cases with
      ⟨_, hBegin⟩ | ⟨reply, replies, hReplies, hBegin⟩
    · rw [hBegin]
      exact List.Subset.refl _
    · rw [hBegin, hReplies]
      exact List.subset_cons_self _ _
  unfold call
  dsimp only
  split
  · rename_i fault _
    rw [(answered_cost rules rest now fault
      { r with calls := r.calls + 1 }
      b.beginIncrement.2).2]
    exact hNext
  · exact hNext
  · exact hNext

theorem wake_increments_subset
    (r : Recording)
    (b : CounterBackend) :
    (r.wake rules rest b).2.increments ⊆ b.increments := by
  unfold wake
  split
  · exact List.Subset.refl _
  · split
    · rename_i at_ fault _ _
      rw [(answered_cost rules rest at_ fault r b).2]
      exact List.Subset.refl _
    · exact List.Subset.refl _
  · split
    · exact call_increments_subset rules rest _ r b
    · exact List.Subset.refl _

end Recording

end UrlShortener

------------------------------------------------------------
-- Counters That Answer In Time
------------------------------------------------------------

namespace UrlShortener

/- A counter whose calls all succeed within a limit. -/
def CounterBackend.Prompt
    (b : CounterBackend)
    (limit : Nat) : Prop :=
  ∀ reply ∈ b.increments, reply.within limit = some none

namespace Recording

/- The call under way will succeed in time. -/
def Sure (r : Recording) : Prop :=
  ∃ at_, r.awaited = .answer (some at_) none ∧ at_ ≤ r.limit

end Recording

/- A recording that has ended well or surely will. -/
def Course.Sure : Course → Prop
| .ended result => result = .ok ()
| .waiting r => r.Sure

namespace Recording

variable {rules : RecordingRules} {rest : Nat → Nat → Nat}

theorem start_sure
    {b : CounterBackend}
    (hPrompt : b.Prompt rules.limit)
    (now number : Nat)
    (code : String) :
    (start rules rest now number code b).1.Sure := by
  unfold start
  rcases b.beginIncrement_cases with
    ⟨_, hBegin⟩ | ⟨reply, replies, hReplies, hBegin⟩
  · simp only [call, hBegin, answered]
    rfl
  · have hWithin : reply.within rules.limit = some none := by
      apply hPrompt
      rw [hReplies]
      exact List.mem_cons_self
    simp only [call, hBegin]
    rcases Reply.within_eq_some_iff.mp hWithin with
      ⟨_ | after, rfl, hTime⟩
    · rfl
    · exact ⟨_, rfl, Nat.add_le_add_left hTime now⟩

/- Such a recording ends well as soon as it goes on. -/
theorem wake_sure
    {r : Recording}
    (hSure : r.Sure)
    (b : CounterBackend) :
    (r.wake rules rest b).1 = .ended (.ok ()) := by
  rcases hSure with ⟨at_, hAwaited, hTime⟩
  simp only [wake, hAwaited, if_pos hTime, answered]

end Recording

end UrlShortener
