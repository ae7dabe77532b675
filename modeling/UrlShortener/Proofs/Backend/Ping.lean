import UrlShortener.Proofs.Backend.Reply

/-
  A call under a deadline, looked at again and again. Every
  time its answer is looked at first, and the deadline only
  if there is none. So an answer right at the deadline
  counts, and the call is over with what comes of its reply
  within the deadline, as soon as its caller need not wait.

  Key definitions include:
    * `Ping`
    * `Ping.poll`
    * `Ping.polled`

  Main declarations:
    * `Ping.poll_waiting`
    * `Ping.polled_eq`
-/

namespace UrlShortener

/-
  A call under a deadline: it goes on, or it was over at a
  time, with the answer if one had come.
-/
inductive Ping (ε : Type) where
| waiting (reply : Reply ε)
| ended (time : Nat) (came : Option (Option ε))
deriving DecidableEq, Repr

namespace Reply

variable {ε : Type}

/- Nobody waits longer than the limit. -/
theorem wait_le (limit : Nat) (reply : Reply ε) :
    reply.wait limit ≤ limit := by
  cases reply with
  | answers after fault => exact Nat.min_le_right after limit
  | never => exact Nat.le_refl limit

/- An answer in time is waited for until it comes. -/
theorem wait_of_answers
    {limit after : Nat}
    (hTime : after ≤ limit)
    (fault : Option ε) :
    (answers after fault).wait limit = after :=
  Nat.min_eq_left hTime

end Reply

namespace Ping

variable {ε : Type}

/- Look at a call some time after it began. -/
def poll (limit elapsed : Nat) : Ping ε → Ping ε
| .waiting reply =>
    match reply.within elapsed with
    | some fault => .ended elapsed (some fault)
    | none =>
        if limit ≤ elapsed then .ended elapsed none
        else .waiting reply
| .ended time came => .ended time came

/- Look at a call every millisecond before a time. -/
def polled (limit : Nat) (reply : Reply ε) : Nat → Ping ε
| 0 => .waiting reply
| elapsed + 1 => (polled limit reply elapsed).poll limit elapsed

/- A call that goes on is over when its caller need not wait. -/
theorem poll_waiting
    {limit elapsed : Nat}
    {reply : Reply ε}
    (hBefore : elapsed ≤ reply.wait limit) :
    (waiting reply).poll limit elapsed =
      if reply.wait limit ≤ elapsed then
        .ended (reply.wait limit) (reply.within limit)
      else
        .waiting reply := by
  cases reply with
  | never =>
      by_cases hLimit : limit ≤ elapsed
      · obtain rfl := Nat.le_antisymm hBefore hLimit
        simp only [poll, Reply.within, Reply.wait,
          Nat.le_refl, if_true]
      · simp only [poll, Reply.within, Reply.wait, hLimit,
          if_false]
  | answers after fault =>
      have hAfter : elapsed ≤ after :=
        Nat.le_trans hBefore (Nat.min_le_left after limit)
      have hLimit : elapsed ≤ limit :=
        Nat.le_trans hBefore (Nat.min_le_right after limit)
      -- Right at the limit both cases apply, and the answer wins.
      by_cases hCame : after ≤ elapsed
      · obtain rfl := Nat.le_antisymm hAfter hCame
        simp only [poll, Reply.within, Reply.wait, hLimit,
          Nat.min_eq_left, Nat.le_refl, if_true]
      · by_cases hOver : limit ≤ elapsed
        · obtain rfl := Nat.le_antisymm hLimit hOver
          simp only [poll, Reply.within, Reply.wait, hCame,
            Nat.min_eq_right hAfter, Nat.le_refl, if_true,
            if_false]
        · have hEither : ¬ min after limit ≤ elapsed := by
            omega
          simp only [poll, Reply.within, Reply.wait, hCame,
            hOver, hEither, if_false]

/- What is found of a call by those who look all the time. -/
theorem polled_eq
    (limit : Nat)
    (reply : Reply ε)
    (elapsed : Nat) :
    polled limit reply elapsed =
      if reply.wait limit < elapsed then
        .ended (reply.wait limit) (reply.within limit)
      else
        .waiting reply := by
  induction elapsed with
  | zero => rw [if_neg (Nat.not_lt_zero _), polled]
  | succ elapsed ih =>
      rw [polled, ih]
      by_cases hOver : reply.wait limit < elapsed
      · rw [if_pos hOver, if_pos (Nat.lt_succ_of_lt hOver),
          poll]
      · rw [if_neg hOver, poll_waiting (Nat.not_lt.mp hOver)]
        simp only [Nat.lt_succ_iff]

end Ping

end UrlShortener
