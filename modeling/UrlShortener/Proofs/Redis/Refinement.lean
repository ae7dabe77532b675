import UrlShortener.Proofs.Number.Printed
import UrlShortener.Proofs.Visit.Recording
import UrlShortener.Redis.Counter

/-
  Counting on a server instead of in memory. A server whose
  keys of the codes in use are not set at the start answers
  every call as a tally would, as long as no number outgrows
  its 64 bits, and touches no key but those of the codes.
  This is so however many counters use the server, and in
  whatever order their calls and the answers arrive.

  Key definitions include:
    * `CounterCall`
    * `CounterAnswer`
    * `SharedCounter.Mirrors`
    * `Wire`

  Main declarations:
    * `SharedCounter.answer_mirrors`
    * `SharedCounter.answerAll_mirrors`
    * `Wire.run_answers`
    * `Wire.shared_counter_is_a_tally`
-/

------------------------------------------------------------
-- Keys
------------------------------------------------------------

namespace UrlShortener

namespace Server

theorem get?_cons
    (name text key : String)
    (texts : List (String × String)) :
    (Server.mk ((name, text) :: texts)).get? key =
      if name = key then some text
      else (Server.mk texts).get? key := by
  unfold get?
  rw [List.find?_cons]
  by_cases hName : name = key
  · simp [hName]
  · have hOther : (name == key) = false := by
      simpa using hName
    rw [if_neg hName, hOther]

theorem get?_put
    (key text other : String)
    (texts : List (String × String)) :
    (Server.mk (put key text texts)).get? other =
      if key = other then some text
      else (Server.mk texts).get? other := by
  induction texts with
  | nil => rw [put, get?_cons]
  | cons entry texts ih =>
      rcases entry with ⟨name, old⟩
      rw [put]
      by_cases hName : name = key
      · subst hName
        rw [if_pos rfl, get?_cons, get?_cons]
        by_cases hOther : name = other
        · simp [hOther]
        · simp [hOther]
      · rw [if_neg hName, get?_cons, get?_cons, ih]
        by_cases hOther : name = other
        · have hKey : key ≠ other := by
            intro hKey
            exact hName (hOther.trans hKey.symm)
          simp [hOther, hKey]
        · simp [hOther]

/- A key that is set is found; the others are as before. -/
theorem get?_set
    (s : Server)
    (key text other : String) :
    (s.set key text).get? other =
      if key = other then some text else s.get? other :=
  get?_put key text other s.texts

/- There is room for one more below the largest number. -/
theorem fits_succ
    {n : Nat}
    (hFits : n < Signed.maxNumber) :
    fits ((n : Int) + 1) = true := by
  have hMax : (n : Int) < 9223372036854775807 :=
    Int.ofNat_lt.mpr hFits
  unfold fits
  rw [Bool.and_eq_true, decide_eq_true_eq, decide_eq_true_eq]
  omega

/- A number with room for one more is incremented. -/
theorem incrementBy_one
    {s : Server}
    {key : String}
    {n : Int}
    (hNumber : s.number? key = some n)
    (hRoom : fits (n + 1) = true) :
    s.incrementBy key 1 =
      (.ok (n + 1), s.set key (toString (n + 1))) := by
  unfold incrementBy
  rw [hNumber]
  exact if_pos hRoom

/- A number above zero is printed without a sign. -/
theorem toString_succ (n : Nat) :
    toString ((n : Int) + 1) = toString (n + 1) := by
  rw [Int.toString_eq_repr, Int.repr_eq_if,
    if_pos (by omega), Nat.toString_eq_repr]
  exact congrArg Nat.repr (by omega)

end Server

namespace SharedCounter

/- No two codes share a key. -/
theorem key_inj
    {code other : String} :
    key code = key other ↔ code = other :=
  String.append_right_inj "visits:"

end SharedCounter

end UrlShortener

------------------------------------------------------------
-- Calls Of Counters
------------------------------------------------------------

namespace UrlShortener

inductive CounterCall where
| increment (code : String)
| get (code : String)
| ping
deriving DecidableEq, Repr

inductive CounterAnswer where
| counted (result : Except CounterFault Unit)
| visits (result : Except CounterFault Nat)
| alive (result : Except CounterFault Unit)
deriving Repr

/- The code that a call is about, if it is about one. -/
def CounterCall.code? : CounterCall → Option String
| .increment code => some code
| .get code => some code
| .ping => none

/- How a tally answers a call. -/
def Tally.answer (t : Tally) :
    CounterCall → CounterAnswer × Tally
| .increment code => (.counted (.ok ()), t.increment code)
| .get code => (.visits (.ok (t.count code)), t)
| .ping => (.alive (.ok ()), t)

/- How a call is answered that is made on a server. -/
def SharedCounter.answer (s : Server) :
    CounterCall → CounterAnswer × Server
| .increment code =>
    let (result, s) := increment code s
    (.counted result, s)
| .get code => (.visits (get code s), s)
| .ping => (.alive (ping s), s)

namespace CounterCall

variable {σ : Type}
variable (answer : σ → CounterCall → CounterAnswer × σ)

/- Answer calls one after another. -/
def answerAll :
    List CounterCall → σ → List CounterAnswer × σ
| [], s => ([], s)
| call :: calls, s =>
    let (first, s) := answer s call
    let (others, s) := answerAll calls s
    (first :: others, s)

/- The last of the calls meets what the others have left. -/
theorem answerAll_concat
    (calls : List CounterCall)
    (call : CounterCall)
    (s : σ) :
    answerAll answer (calls ++ [call]) s =
      let before := answerAll answer calls s
      let last := answer before.2 call
      (before.1 ++ [last.1], last.2) := by
  induction calls generalizing s with
  | nil => rfl
  | cons first calls ih =>
      simp only [List.cons_append, answerAll, ih]

end CounterCall

end UrlShortener

------------------------------------------------------------
-- A Server That Mirrors A Tally
------------------------------------------------------------

namespace UrlShortener

namespace SharedCounter

/-
  The server has the count of a code under its key: the key
  is not set if the count is zero.
-/
def Mirrors (s : Server) (t : Tally) (code : String) : Prop :=
  s.get? (key code) =
    if t.count code = 0 then none
    else some (toString (t.count code))

variable {s : Server} {t : Tally} {code : String}

/- A count that is mirrored is read. -/
theorem get_of_mirrors
    (hMirrors : Mirrors s t code)
    (hFits : t.count code ≤ Signed.maxNumber) :
    get code s = .ok (t.count code) := by
  have hWord : t.count code ≤ Unsigned.maxWord :=
    Nat.le_trans hFits (by decide)
  unfold get
  rw [hMirrors]
  split
  · rename_i hNone
    split at hNone
    · rename_i hZero
      rw [hZero]
    · cases hNone
  · rename_i text hText
    split at hText
    · cases hText
    · cases hText
      rw [Unsigned.read_toString hWord]

/- A count that is mirrored is the number to be added to. -/
theorem number?_of_mirrors
    (hMirrors : Mirrors s t code)
    (hFits : t.count code ≤ Signed.maxNumber) :
    s.number? (key code) = some (t.count code : Int) := by
  unfold Server.number?
  rw [hMirrors]
  split
  · rename_i hNone
    split at hNone
    · rename_i hZero
      rw [hZero]
      rfl
    · cases hNone
  · rename_i text hText
    split at hText
    · cases hText
    · cases hText
      exact Signed.read?_toString hFits

/- One more is set under the key, as it would be printed. -/
theorem increment_of_mirrors
    (hMirrors : Mirrors s t code)
    (hFits : t.count code < Signed.maxNumber) :
    increment code s =
      (.ok (),
        s.set (key code) (toString (t.count code + 1))) := by
  have hNumber :=
    number?_of_mirrors hMirrors (Nat.le_of_lt hFits)
  unfold increment
  rw [Server.incrementBy_one hNumber (Server.fits_succ hFits),
    Server.toString_succ]

end SharedCounter

end UrlShortener

------------------------------------------------------------
-- Calls On A Server That Mirrors A Tally
------------------------------------------------------------

namespace UrlShortener

namespace SharedCounter

variable {s : Server} {t : Tally}

/- A key that belongs to no code that is incremented. -/
def Apart (calls : List CounterCall) (name : String) : Prop :=
  ∀ code, .increment code ∈ calls → key code ≠ name

/-
  What a server and a tally that were called alike have in
  common: they gave the same answers, the server mirrors the
  tally for every code that it did, and no key was set but
  those of codes that were incremented.
-/
structure Alike
    (calls : List CounterCall)
    (s : Server)
    (t : Tally)
    (shared : List CounterAnswer × Server)
    (tallied : List CounterAnswer × Tally) : Prop where
  answers_eq : shared.1 = tallied.1
  mirrors :
    ∀ {code}, Mirrors s t code →
      Mirrors shared.2 tallied.2 code
  keeps :
    ∀ {name}, Apart calls name →
      shared.2.get? name = s.get? name

/- One call is answered alike where its code is mirrored. -/
theorem answer_alike
    {call : CounterCall}
    (hMirrors :
      ∀ {code}, call.code? = some code → Mirrors s t code)
    (hFew :
      ∀ code,
        t.count code + [call].count (.increment code) ≤
          Signed.maxNumber) :
    Alike [call] s t
      ([(answer s call).1], (answer s call).2)
      ([(t.answer call).1], (t.answer call).2) := by
  cases call with
  | increment code =>
      have hBelow : t.count code < Signed.maxNumber := by
        have hCode := hFew code
        rwa [List.count_singleton_self] at hCode
      have hIncrement :=
        increment_of_mirrors (hMirrors rfl) hBelow
      simp only [answer, Tally.answer, hIncrement]
      refine ⟨rfl, ?_, ?_⟩
      · intro other hOther
        unfold Mirrors at hOther ⊢
        rw [Server.get?_set, Tally.count_increment]
        by_cases hCode : code = other
        · subst hCode
          rw [if_pos rfl, if_pos rfl, if_neg (by omega)]
        · rw [if_neg (mt key_inj.mp hCode), if_neg hCode]
          exact hOther
      · intro name hApart
        rw [Server.get?_set,
          if_neg (hApart code (List.mem_singleton_self _))]
  | get code =>
      have hBelow : t.count code ≤ Signed.maxNumber :=
        Nat.le_trans (Nat.le_add_right _ _) (hFew code)
      refine ⟨?_, id, fun _ => rfl⟩
      simp only [answer, Tally.answer,
        get_of_mirrors (hMirrors rfl) hBelow]
  | ping => exact ⟨rfl, id, fun _ => rfl⟩

/- A call counts if it is an increment, and not otherwise. -/
theorem count_answer
    (t : Tally)
    (call : CounterCall)
    (code : String) :
    (t.answer call).2.count code =
      t.count code + [call].count (.increment code) := by
  cases call with
  | increment other =>
      rw [Tally.answer, Tally.count_increment,
        List.count_singleton]
      simp
  | get other => rfl
  | ping => rfl

/- So are all calls, one after another. -/
theorem answerAll_alike
    {calls : List CounterCall}
    (hMirrors :
      ∀ call ∈ calls, ∀ {code}, call.code? = some code →
        Mirrors s t code)
    (hFew :
      ∀ code,
        t.count code + calls.count (.increment code) ≤
          Signed.maxNumber) :
    Alike calls s t
      (CounterCall.answerAll answer calls s)
      (CounterCall.answerAll Tally.answer calls t) := by
  induction calls generalizing s t with
  | nil => exact ⟨rfl, id, fun _ => rfl⟩
  | cons call calls ih =>
      have hCount (code : String) :
          (call :: calls).count (.increment code) =
            [call].count (.increment code) +
              calls.count (.increment code) := by
        rw [← List.singleton_append, List.count_append]
      have hCall :
          Alike [call] s t
            ([(answer s call).1], (answer s call).2)
            ([(t.answer call).1], (t.answer call).2) := by
        apply answer_alike
        · exact hMirrors call List.mem_cons_self
        · intro code
          have hCode := hFew code
          rw [hCount] at hCode
          omega
      have hCalls :
          Alike calls (answer s call).2 (t.answer call).2
            (CounterCall.answerAll answer calls
              (answer s call).2)
            (CounterCall.answerAll Tally.answer calls
              (t.answer call).2) := by
        apply ih
        · intro later hMem code hCode
          exact hCall.mirrors
            (hMirrors later (List.mem_cons_of_mem _ hMem) hCode)
        · intro code
          have hCode := hFew code
          rw [hCount] at hCode
          rw [count_answer]
          omega
      refine ⟨?_, ?_, ?_⟩
      · have hFirst :=
          List.head_eq_of_cons_eq hCall.answers_eq
        simp only [CounterCall.answerAll, hFirst,
          hCalls.answers_eq]
      · exact fun hCode => hCalls.mirrors (hCall.mirrors hCode)
      · intro name hApart
        have hLater : Apart calls name := fun code hMem =>
          hApart code (List.mem_cons_of_mem _ hMem)
        have hFirst : Apart [call] name := by
          intro code hMem
          apply hApart code
          rw [List.mem_singleton.mp hMem]
          exact List.mem_cons_self
        exact (hCalls.keeps hLater).trans (hCall.keeps hFirst)

end SharedCounter

end UrlShortener

------------------------------------------------------------
-- Calls On Their Way
------------------------------------------------------------

namespace UrlShortener

/-
  Counters that use one thing that counts, from afar: the
  calls on their way to it, each with the number of the
  counter that made it; the calls that have arrived and how
  they were answered, in the order of their arrival; and the
  numbers of the arrived calls whose answers are on their
  way back or were received.
-/
structure Wire (σ : Type) where
  counter : σ
  sent : List (Nat × CounterCall)
  arrived : List (Nat × CounterCall)
  answers : List CounterAnswer
  returning : List Nat
  received : List Nat

/-
  A counter makes a call, a call arrives and is answered, or
  an answer is received. Any call that is on its way may be
  the next to arrive, and any answer may be received next.
-/
inductive WireMove where
| send (counter : Nat) (call : CounterCall)
| arrive (n : Nat)
| receive (n : Nat)
deriving DecidableEq, Repr

namespace Wire

variable {σ τ : Type}

/- Nothing is on its way. -/
def start (counter : σ) : Wire σ :=
  { counter, sent := [], arrived := [], answers := []
    returning := [], received := [] }

/- Make a move. One that is not possible changes nothing. -/
def step
    (answer : σ → CounterCall → CounterAnswer × σ)
    (w : Wire σ) : WireMove → Wire σ
| .send counter call =>
    { w with sent := w.sent ++ [(counter, call)] }
| .arrive n =>
    match w.sent[n]? with
    | none => w
    | some (counter, call) =>
        let (given, left) := answer w.counter call
        { w with
            counter := left
            sent := w.sent.eraseIdx n
            arrived := w.arrived ++ [(counter, call)]
            answers := w.answers ++ [given]
            returning := w.returning ++ [w.arrived.length] }
| .receive n =>
    match w.returning[n]? with
    | none => w
    | some k =>
        { w with
            returning := w.returning.eraseIdx n
            received := w.received ++ [k] }

/- Make moves one after another. -/
def run
    (answer : σ → CounterCall → CounterAnswer × σ)
    (w : Wire σ)
    (moves : List WireMove) : Wire σ :=
  moves.foldl (step answer) w

/- The calls that have arrived, in order. -/
def calls (w : Wire σ) : List CounterCall :=
  w.arrived.map Prod.snd

/-
  What the counters have seen: who made a call, the call,
  and the answer to it, in the order of the receipt.
-/
def seen (w : Wire σ) :
    List ((Nat × CounterCall) × CounterAnswer) :=
  w.received.filterMap ((w.arrived.zip w.answers)[·]?)

variable {answer : σ → CounterCall → CounterAnswer × σ}

/- Calls are answered one after another as they arrive. -/
def Answers
    (answer : σ → CounterCall → CounterAnswer × σ)
    (start : σ)
    (w : Wire σ) : Prop :=
  CounterCall.answerAll answer w.calls start =
    (w.answers, w.counter)

theorem Answers.step
    {start : σ}
    {w : Wire σ}
    (hAnswers : Answers answer start w)
    (move : WireMove) :
    Answers answer start (w.step answer move) := by
  cases move with
  | send counter call => exact hAnswers
  | arrive n =>
      unfold Wire.step
      dsimp only
      split
      · exact hAnswers
      · rename_i counter call _
        unfold Answers calls at hAnswers ⊢
        rw [List.map_append]
        simp only [List.map_cons, List.map_nil,
          CounterCall.answerAll_concat, hAnswers]
  | receive n =>
      unfold Wire.step
      dsimp only
      split
      · exact hAnswers
      · exact hAnswers

theorem run_answers
    (answer : σ → CounterCall → CounterAnswer × σ)
    (counter : σ)
    (moves : List WireMove) :
    Answers answer counter
      ((start counter).run answer moves) := by
  have hRun
      (w : Wire σ)
      (hAnswers : Answers answer counter w) :
      Answers answer counter (w.run answer moves) := by
    unfold run
    induction moves generalizing w with
    | nil => exact hAnswers
    | cons move moves ih => exact ih _ (hAnswers.step move)
  exact hRun _ rfl

/- The same is on its way, has arrived and was received. -/
structure SameCourse (w : Wire σ) (v : Wire τ) : Prop where
  sent : w.sent = v.sent
  arrived : w.arrived = v.arrived
  returning : w.returning = v.returning
  received : w.received = v.received

/- What is where has nothing to do with the answers. -/
theorem SameCourse.step
    {other : τ → CounterCall → CounterAnswer × τ}
    {w : Wire σ}
    {v : Wire τ}
    (hSame : SameCourse w v)
    (move : WireMove) :
    SameCourse (w.step answer move) (v.step other move) := by
  rcases hSame with ⟨hSent, hArrived, hReturning, hReceived⟩
  cases move with
  | send counter call =>
      exact ⟨congrArg (· ++ _) hSent, hArrived, hReturning,
        hReceived⟩
  | arrive n =>
      unfold Wire.step
      dsimp only
      rw [hSent]
      cases v.sent[n]? with
      | none =>
          exact ⟨hSent, hArrived, hReturning, hReceived⟩
      | some call =>
          refine ⟨rfl, ?_, ?_, hReceived⟩
          · exact congrArg (· ++ [call]) hArrived
          · simp only [hReturning, hArrived]
  | receive n =>
      unfold Wire.step
      dsimp only
      rw [hReturning]
      cases v.returning[n]? with
      | none =>
          exact ⟨hSent, hArrived, hReturning, hReceived⟩
      | some k =>
          exact ⟨hSent, hArrived, rfl,
            congrArg (· ++ [k]) hReceived⟩

theorem run_sameCourse
    (answer : σ → CounterCall → CounterAnswer × σ)
    (other : τ → CounterCall → CounterAnswer × τ)
    (counter : σ)
    (twin : τ)
    (moves : List WireMove) :
    SameCourse ((start counter).run answer moves)
      ((start twin).run other moves) := by
  have hRun
      (w : Wire σ)
      (v : Wire τ)
      (hSame : SameCourse w v) :
      SameCourse (w.run answer moves)
        (v.run other moves) := by
    unfold run
    induction moves generalizing w v with
    | nil => exact hSame
    | cons move moves ih => exact ih _ _ (hSame.step move)
  exact hRun _ _ ⟨rfl, rfl, rfl, rfl⟩

/-
  Whatever calls counters make on one server, and in
  whatever order these arrive, a server on which the keys of
  their codes were not set answers them as a tally that is
  empty at first: by and by with the answers that the tally
  gives to the calls in the order of their arrival. So the
  counters see the same, and the counts are what is under
  the keys. No key is set but those of codes that were
  incremented, and no two codes share a key. This holds
  while no code has more increments than a number of 64 bits
  with its sign can count.
-/
theorem shared_counter_is_a_tally
    (server : Server)
    (moves : List WireMove)
    (hUnset :
      ∀ call ∈
          ((start server).run SharedCounter.answer moves).calls,
        ∀ code, call.code? = some code →
          server.get? (SharedCounter.key code) = none)
    (hFew :
      ∀ code,
        ((start server).run SharedCounter.answer
          moves).calls.count (.increment code) ≤
            Signed.maxNumber) :
    let shared :=
      (start server).run SharedCounter.answer moves
    let tallied := (start Tally.empty).run Tally.answer moves
    shared.arrived = tallied.arrived ∧
    shared.answers = tallied.answers ∧
    shared.seen = tallied.seen ∧
    tallied.answers =
      (CounterCall.answerAll Tally.answer shared.calls
        .empty).1 ∧
    (∀ code, server.get? (SharedCounter.key code) = none →
      SharedCounter.Mirrors shared.counter tallied.counter
        code) ∧
    (∀ name,
      (∀ code, .increment code ∈ shared.calls →
        SharedCounter.key code ≠ name) →
        shared.counter.get? name = server.get? name) ∧
    ∀ code other,
      SharedCounter.key code = SharedCounter.key other →
        code = other := by
  intro shared tallied
  have hSame : SameCourse shared tallied :=
    run_sameCourse _ _ _ _ moves
  have hCalls : tallied.calls = shared.calls :=
    congrArg (List.map Prod.snd) hSame.arrived.symm
  have hShared : Answers SharedCounter.answer server shared :=
    run_answers _ _ moves
  have hTallied : Answers Tally.answer .empty tallied :=
    run_answers _ _ moves
  unfold Answers at hShared hTallied
  rw [hCalls] at hTallied
  have hAlike :
      SharedCounter.Alike shared.calls server .empty
        (shared.answers, shared.counter)
        (tallied.answers, tallied.counter) := by
    rw [← hShared, ← hTallied]
    apply SharedCounter.answerAll_alike
    · exact fun call hMem {code} hCode =>
        hUnset call hMem code hCode
    · intro code
      have hNone : Tally.empty.count code = 0 := rfl
      rw [hNone, Nat.zero_add]
      exact hFew code
  have hAnswers : shared.answers = tallied.answers :=
    hAlike.answers_eq
  refine ⟨hSame.arrived, hAnswers, ?_, ?_, ?_, ?_, ?_⟩
  · unfold seen
    rw [hSame.received, hSame.arrived, hAnswers]
  · rw [hTallied]
  · exact fun code hNone => hAlike.mirrors hNone
  · exact fun name hApart => hAlike.keeps hApart
  · exact fun code other hKey =>
      SharedCounter.key_inj.mp hKey

/-
  Two counters whose calls overtake each other, on a server
  with a key of its own.
-/
def sampleServer : Server := ⟨[("visits", "7")]⟩

def sampleMoves : List WireMove :=
  [.send 0 (.increment "a"), .send 1 (.increment ":a"),
    .send 1 (.get "a"), .arrive 2, .arrive 0, .send 0 (.get ""),
    .send 0 (.get "a"), .arrive 2, .receive 2, .arrive 0,
    .arrive 0, .receive 0]

theorem sample_shared_counter_is_a_tally :
    ((start sampleServer).run SharedCounter.answer
        sampleMoves).seen =
      [((0, .get "a"), .visits (.ok 1)),
        ((1, .get "a"), .visits (.ok 0))] := by
  have hShared :=
    shared_counter_is_a_tally sampleServer sampleMoves
      (by decide +kernel)
      (fun code =>
        Nat.le_trans List.count_le_length
          (by decide +kernel))
  rw [hShared.2.2.1]
  rfl

end Wire

end UrlShortener
