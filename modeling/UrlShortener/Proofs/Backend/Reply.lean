import UrlShortener.Backend.Reply

/-
  What comes of replies: within a limit, and of those that
  are still to come.

  Key definitions include:
    * `Reply.Faultless`

  Main declarations:
    * `Reply.within_eq_some_iff`
    * `Reply.mem_of_mem_next`
    * `Reply.next_eq`
    * `Reply.next_cases`
-/

namespace UrlShortener

namespace Reply

variable {ε : Type} {reply : Reply ε} {replies : List (Reply ε)}

/- Just an answer in time comes within a limit. -/
theorem within_eq_some_iff
    {limit : Nat}
    {came : Option ε} :
    reply.within limit = some came ↔
      ∃ after, reply = .answers after came ∧ after ≤ limit := by
  cases reply with
  | never =>
      constructor
      · nofun
      · rintro ⟨after, hReply, _⟩
        cases hReply
  | answers after fault =>
      by_cases hTime : after ≤ limit
      · rw [within, if_pos hTime]
        constructor
        · rintro hCame
          exact ⟨after, congrArg _ (Option.some.inj hCame),
            hTime⟩
        · rintro ⟨_, hReply, _⟩
          cases hReply
          rfl
      · rw [within, if_neg hTime]
        constructor
        · nofun
        · rintro ⟨_, hReply, hInTime⟩
          cases hReply
          exact absurd hInTime hTime

/- What is left of the replies to come when one is taken. -/
theorem next_eq (replies : List (Reply ε)) :
    next replies =
      ((replies[0]?).getD prompt, replies.drop 1) := by
  cases replies with
  | nil => rfl
  | cons reply rest => rfl

/- The replies left are among the replies to come. -/
theorem mem_of_mem_next
    (hMem : reply ∈ (next replies).2) : reply ∈ replies := by
  cases replies with
  | nil => exact hMem
  | cons first rest => exact List.mem_cons_of_mem first hMem

/- The next reply is one of those to come, or a prompt one. -/
theorem next_cases (replies : List (Reply ε)) :
    (next replies).1 = prompt ∨
      (next replies).1 ∈ replies := by
  cases replies with
  | nil => exact Or.inl rfl
  | cons first rest => exact Or.inr List.mem_cons_self

/- A reply without a fault: in time, late or never. -/
def Faultless : Reply ε → Prop
| .answers _ fault => fault = none
| .never => True

/- What comes of such a reply is the word to carry on. -/
theorem Faultless.within
    (hFaultless : reply.Faultless)
    {limit : Nat}
    {came : Option ε}
    (hCame : reply.within limit = some came) :
    came = none := by
  rcases within_eq_some_iff.mp hCame with ⟨after, rfl, _⟩
  exact hFaultless

/- The next reply has no fault if none has. -/
theorem faultless_next
    (hFaultless : ∀ reply ∈ replies, reply.Faultless) :
    (next replies).1.Faultless := by
  rcases next_cases replies with hPrompt | hMem
  · rw [hPrompt]
    rfl
  · exact hFaultless _ hMem

end Reply

end UrlShortener
