import UrlShortener.Proofs.Visit.Recording

/-
  Recordings that are polled: at any time a recording may be
  asked to go on, and does so if what it waits for has come
  or its limit has passed. How often it can is bounded by
  the rules alone, whatever the counter replies.

  Key definitions include:
    * `Recording.poll?`
    * `Recording.turns`
    * `Course.NotBefore`

  Main declarations:
    * `Recording.exists_poll`
    * `Recording.poll?_due`
    * `Recording.poll?_books`
    * `Recording.poll?_sure`
    * `Recording.poll?_turns`
    * `Recording.wake_notBefore`
-/

------------------------------------------------------------
-- Recordings That Are Polled
------------------------------------------------------------

namespace UrlShortener

namespace Recording

/- What the recording waits for has come by a time. -/
def hasCome (now : Nat) (r : Recording) : Bool :=
  match r.comes? with
  | some at_ => at_ ≤ now
  | none => false

/-
  Let a recording go on at a time, if it can. What has come
  by then counts, be it past the limit; otherwise the
  recording ends at its limit and not before.
-/
def poll?
    (rules : RecordingRules)
    (rest : Nat → Nat → Nat)
    (now : Nat)
    (r : Recording)
    (b : CounterBackend) : Option (Course × CounterBackend) :=
  if r.hasCome now then
    match r.awaited with
    | .answer _ fault =>
        some (answered rules rest now fault r b)
    | .retry _ => some (call rules rest now r b)
  else if r.limit ≤ now then
    some (overdue rules, b)
  else
    none

variable {rules : RecordingRules} {rest : Nat → Nat → Nat}
variable {now : Nat} {r : Recording} {b : CounterBackend}
variable {course : Course × CounterBackend}

/- A recording takes an answer, calls again or is overdue. -/
theorem poll?_cases
    (hPoll : r.poll? rules rest now b = some course) :
    (∃ at_ fault, r.awaited = .answer at_ fault ∧
      course = answered rules rest now fault r b) ∨
    (∃ at_, r.awaited = .retry at_ ∧
      course = call rules rest now r b) ∨
    (r.hasCome now = false ∧ r.limit ≤ now ∧
      course = (overdue rules, b)) := by
  unfold poll? at hPoll
  split at hPoll
  · cases hAwaited : r.awaited with
    | answer at_ fault =>
        rw [hAwaited] at hPoll
        exact Or.inl ⟨at_, fault, rfl,
          (Option.some.inj hPoll).symm⟩
    | retry at_ =>
        rw [hAwaited] at hPoll
        exact Or.inr (Or.inl ⟨at_, rfl,
          (Option.some.inj hPoll).symm⟩)
  · rename_i hAway
    split at hPoll
    · rename_i hLimit
      exact Or.inr (Or.inr ⟨Bool.eq_false_iff.mpr hAway,
        hLimit, (Option.some.inj hPoll).symm⟩)
    · cases hPoll

theorem due_le_limit (r : Recording) : r.due ≤ r.limit := by
  unfold due
  split
  · exact Nat.min_le_right _ _
  · exact Nat.le_refl _

/- From when it is due on, a recording can go on. -/
theorem exists_poll
    (hDue : r.due ≤ now) :
    ∃ course, r.poll? rules rest now b = some course := by
  unfold poll?
  by_cases hCome : r.hasCome now = true
  · rw [if_pos hCome]
    split
    · exact ⟨_, rfl⟩
    · exact ⟨_, rfl⟩
  · have hLimit : r.limit ≤ now := by
      unfold due at hDue
      unfold hasCome at hCome
      split at hDue
      · rename_i at_ hComes
        simp only [hComes, decide_eq_true_eq] at hCome
        omega
      · exact hDue
    rw [if_neg hCome, if_pos hLimit]
    exact ⟨_, rfl⟩

/- Polled just when it is due, a recording is woken. -/
theorem poll?_due
    (rules : RecordingRules)
    (rest : Nat → Nat → Nat)
    (r : Recording)
    (b : CounterBackend) :
    r.poll? rules rest r.due b =
      some (r.wake rules rest b) := by
  unfold poll? wake hasCome due comes?
  cases r.awaited with
  | answer at_ fault =>
      cases at_ with
      | none => simp
      | some at_ =>
          by_cases hTime : at_ ≤ r.limit
          · simp [hTime]
          · simp [hTime, Nat.le_of_not_le hTime]
  | retry at_ =>
      by_cases hTime : at_ ≤ r.limit
      · simp [hTime]
      · simp [hTime, Nat.le_of_not_le hTime]

theorem poll?_books
    (hPoll : r.poll? rules rest now b = some course) :
    Course.Books r.code b.tally course := by
  rcases poll?_cases hPoll with
    ⟨_, fault, _, rfl⟩ | ⟨_, _, rfl⟩ | ⟨_, _, rfl⟩
  · exact answered_books rules rest now fault r b
  · exact call_books rules rest now r b
  · exact .failed rfl

theorem poll?_increments_subset
    (hPoll : r.poll? rules rest now b = some course) :
    course.2.increments ⊆ b.increments := by
  rcases poll?_cases hPoll with
    ⟨_, fault, _, rfl⟩ | ⟨_, _, rfl⟩ | ⟨_, _, rfl⟩
  · rw [(answered_cost rules rest now fault r b).2]
    exact List.Subset.refl _
  · exact call_increments_subset rules rest now r b
  · exact List.Subset.refl _

/- An answer in time is taken, however late it is seen. -/
theorem poll?_sure
    (hSure : r.Sure)
    (hPoll : r.poll? rules rest now b = some course) :
    course.1 = .ended (.ok ()) := by
  rcases hSure with ⟨time, hAwaited, hTime⟩
  rcases poll?_cases hPoll with
    ⟨_, fault, hAnswer, rfl⟩ | ⟨_, hRetry, _⟩ |
    ⟨hCome, hLimit, _⟩
  · rw [hAwaited] at hAnswer
    cases hAnswer
    rfl
  · rw [hAwaited] at hRetry
    cases hRetry
  · simp only [hasCome, comes?, hAwaited,
      decide_eq_false_iff_not] at hCome
    exact absurd (Nat.le_trans hTime hLimit) hCome

end Recording

end UrlShortener

------------------------------------------------------------
-- How Often A Recording Goes On
------------------------------------------------------------

namespace UrlShortener

namespace Recording

/-
  How often a recording can go on, whatever is replied: it
  takes an answer to each call that it is still entitled to,
  and rests before each of them.
-/
def turns (rules : RecordingRules) (r : Recording) : Nat :=
  match r.awaited with
  | .answer _ _ => 2 * (rules.retries + 1 - r.calls) + 1
  | .retry _ => 2 * (rules.retries - r.calls) + 2

end Recording

def Course.turns (rules : RecordingRules) : Course → Nat
| .ended _ => 0
| .waiting r => r.turns rules

namespace Recording

variable (rules : RecordingRules) (rest : Nat → Nat → Nat)

theorem turns_pos (r : Recording) : 0 < r.turns rules := by
  unfold turns
  split
  · exact Nat.succ_pos _
  · exact Nat.succ_pos _

theorem answered_turns
    (now : Nat)
    (fault : Option CounterFault)
    (r : Recording)
    (b : CounterBackend) :
    (answered rules rest now fault r b).1.turns rules ≤
      2 * (rules.retries + 1 - r.calls) := by
  cases fault with
  | none => exact Nat.zero_le _
  | some fault =>
      unfold answered
      dsimp only
      split
      · rename_i hCalls
        simp only [Course.turns, turns]
        omega
      · exact Nat.zero_le _

theorem call_turns
    (now : Nat)
    (r : Recording)
    (b : CounterBackend) :
    (call rules rest now r b).1.turns rules ≤
      2 * (rules.retries - r.calls) + 1 := by
  unfold call
  dsimp only
  split
  · rename_i fault _
    refine Nat.le_trans
      (answered_turns rules rest now fault
        { r with calls := r.calls + 1 } b.beginIncrement.2) ?_
    dsimp only
    omega
  · simp only [Course.turns, turns]
    omega
  · simp only [Course.turns, turns]
    omega

variable {rules rest}
variable {now : Nat} {r : Recording} {b : CounterBackend}
variable {course : Course × CounterBackend}

/- Every time a recording goes on, fewer turns are left. -/
theorem poll?_turns
    (hPoll : r.poll? rules rest now b = some course) :
    course.1.turns rules < r.turns rules := by
  rcases poll?_cases hPoll with
    ⟨_, fault, hAwaited, rfl⟩ | ⟨_, hAwaited, rfl⟩ | ⟨_, _, rfl⟩
  · have hAnswered := answered_turns rules rest now fault r b
    simp only [turns, hAwaited]
    omega
  · have hCall := call_turns rules rest now r b
    simp only [turns, hAwaited]
    omega
  · exact turns_pos rules r

end Recording

end UrlShortener

------------------------------------------------------------
-- When A Recording Goes On
------------------------------------------------------------

namespace UrlShortener

/- A recording that waits on is not due before a time. -/
def Course.NotBefore (now : Nat) : Course → Prop
| .ended _ => True
| .waiting r => now ≤ r.due

namespace Recording

variable (rules : RecordingRules) (rest : Nat → Nat → Nat)

theorem answered_notBefore
    {now : Nat}
    {r : Recording}
    (hLimit : now ≤ r.limit)
    (fault : Option CounterFault)
    (b : CounterBackend) :
    (answered rules rest now fault r b).1.NotBefore now := by
  cases fault with
  | none => trivial
  | some fault =>
      unfold answered
      dsimp only
      split
      · exact Nat.le_min.mpr ⟨Nat.le_add_right _ _, hLimit⟩
      · trivial

theorem call_notBefore
    {now : Nat}
    {r : Recording}
    (hLimit : now ≤ r.limit)
    (b : CounterBackend) :
    (call rules rest now r b).1.NotBefore now := by
  unfold call
  dsimp only
  split
  · rename_i fault _
    exact answered_notBefore rules rest
      (r := { r with calls := r.calls + 1 }) hLimit fault _
  · exact Nat.le_min.mpr ⟨Nat.le_add_right _ _, hLimit⟩
  · exact hLimit

theorem start_notBefore
    (now number : Nat)
    (code : String)
    (b : CounterBackend) :
    (start rules rest now number code b).1.NotBefore now :=
  call_notBefore rules rest
    (r :=
      { number, code, limit := now + rules.limit, calls := 0
        awaited := .retry now })
    (Nat.le_add_right now rules.limit) b

/- Woken when due, a recording waits for what is to come. -/
theorem wake_notBefore
    (r : Recording)
    (b : CounterBackend) :
    (r.wake rules rest b).1.NotBefore r.due := by
  have hLimit := due_le_limit r
  have hPoll := poll?_due rules rest r b
  rcases poll?_cases hPoll with
    ⟨_, fault, _, hWake⟩ | ⟨_, _, hWake⟩ | ⟨_, _, hWake⟩
  · rw [hWake]
    exact answered_notBefore rules rest hLimit fault b
  · rw [hWake]
    exact call_notBefore rules rest hLimit b
  · rw [hWake]
    trivial

end Recording

end UrlShortener
