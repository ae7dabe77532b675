/-
  This file defines how a backend treats a call: it answers
  after a while, with a fault of its own or by doing what it
  was asked to do, or it never answers. A call is given a
  limit; an answer right at the limit still counts.

  Key definitions include:
    * `Reply`
    * `Reply.within`
    * `Reply.wait`
    * `Reply.next`
-/

namespace UrlShortener

------------------------------------------------------------
-- Replies
------------------------------------------------------------

/-
  How a call is answered: after a number of milliseconds,
  with a fault if there is one, or never.
-/
inductive Reply (ε : Type) where
| answers (after : Nat) (fault : Option ε)
| never
deriving DecidableEq, Repr

namespace Reply

variable {ε : Type}

/- The call is carried out at once. -/
def prompt : Reply ε := .answers 0 none

/- The call is carried out after a while. -/
def late (ms : Nat) : Reply ε := .answers ms none

/- The call fails at once. -/
def refused (fault : ε) : Reply ε := .answers 0 (some fault)

end Reply

------------------------------------------------------------
-- Limits
------------------------------------------------------------

namespace Reply

variable {ε : Type}

/-
  The answer that comes within a limit, if one does: a fault
  or the word to carry out the call.
-/
def within (limit : Nat) : Reply ε → Option (Option ε)
| .answers after fault =>
    if after ≤ limit then some fault else none
| .never => none

/- How long the caller waits. -/
def wait (limit : Nat) : Reply ε → Nat
| .answers after _ => min after limit
| .never => limit

end Reply

------------------------------------------------------------
-- Replies to come
------------------------------------------------------------

namespace Reply

variable {ε : Type}

/-
  The next of the replies to come. When none is left, calls
  are carried out at once.
-/
def next : List (Reply ε) → Reply ε × List (Reply ε)
| [] => (prompt, [])
| reply :: rest => (reply, rest)

end Reply

end UrlShortener
