import UrlShortener.Proofs.App.Asks

/-
  The attempts to create a link. What becomes of every one
  is settled by the state at the start: by the draws to
  come, the replies to the saves to come, and the links that
  are stored. Attempts are made in order. Reserved codes and
  codes that are taken are passed over; the first attempt
  that comes to anything else is the last.

  Key definitions include:
    * `Attempt`
    * `Attempt.result?`
    * `App.drawAt`
    * `App.attemptAt`
    * `Shortener.Scans`

  Main declarations:
    * `App.attemptAt_succ`
    * `Shortener.first_attempt_cases`
    * `Shortener.attempt_scans`
    * `Shortener.exists_scans`
-/

------------------------------------------------------------
-- Attempts
------------------------------------------------------------

namespace UrlShortener

/-
  What becomes of an attempt to create a link: no code is
  drawn, a reserved one is, or a link is saved under it and
  the save is answered, if it is in time.
-/
inductive Attempt where
| undrawn (fault : MintFault)
| reserved (code : String)
| saved (new : NewLink) (answer : Option (Except StoreFault Link))
deriving Repr

namespace Attempt

/- The result of a creation that an attempt ends, if it does. -/
def result? (policy : Policy) :
    Attempt → Option (Except Failure Link)
| .undrawn fault => some (.error (.ofMint fault))
| .reserved _ => none
| .saved _ none =>
    some (.error (Shortener.storeTimeout policy.storeTimeout))
| .saved _ (some (.ok link)) => some (.ok link)
| .saved _ (some (.error (.conflict _))) => none
| .saved _ (some (.error fault)) =>
    some (.error (.ofStore fault))

/- Whether an attempt met a code that is taken. -/
def collides : Attempt → Bool
| .saved _ (some (.error (.conflict _))) => true
| _ => false

/- What a creation asks for in an attempt. -/
def asks : Attempt → List Ask
| .undrawn _ => [.code]
| .reserved _ => [.code]
| .saved new (some (.ok _)) =>
    [.code, .save new, .note .linksCreated]
| .saved new (some (.error (.conflict _))) =>
    [.code, .save new, .note .collisions]
| .saved new _ => [.code, .save new]

/- In every attempt, one code is drawn. -/
theorem count_code (a : Attempt) :
    a.asks.count .code = 1 := by
  rcases a with fault | code | ⟨new, _ | fault | link⟩
  · rfl
  · rfl
  · rfl
  · cases fault with
    | _ => rfl
  · rfl

/- Just the codes that are taken count as collisions. -/
theorem count_collisions (a : Attempt) :
    a.asks.count (.note .collisions) = a.collides.toNat := by
  rcases a with fault | code | ⟨new, _ | fault | link⟩
  · rfl
  · rfl
  · rfl
  · cases fault with
    | _ => rfl
  · rfl

/- So they do in a list of attempts. -/
theorem count_flatMap_asks (attempts : List Attempt) :
    (attempts.flatMap asks).count .code = attempts.length ∧
      (attempts.flatMap asks).count (.note .collisions) =
        attempts.countP collides := by
  induction attempts with
  | nil => exact ⟨rfl, rfl⟩
  | cons a attempts ih =>
      rw [List.flatMap_cons, List.count_append,
        List.count_append, ih.1, ih.2, count_code,
        count_collisions, List.length_cons, List.countP_cons]
      refine ⟨Nat.add_comm _ _, ?_⟩
      rw [Nat.add_comm]
      cases a.collides with
      | true => rfl
      | false => rfl

end Attempt

end UrlShortener

------------------------------------------------------------
-- Attempts To Come
------------------------------------------------------------

namespace UrlShortener

namespace App

/- The result of a draw to come, counted from zero. -/
def drawAt
    (w : Surroundings)
    (length : Nat) :
    Nat → App → Except MintFault String
| 0, s => (s.draw w length).1
| n + 1, s => drawAt w length n (s.draw w length).2

/- A draw after which a link is saved. -/
def isUsable : Except MintFault String → Bool
| .ok code => !Code.isReserved code
| .error _ => false

/- The number of saves that come of the first draws. -/
def savesBefore
    (w : Surroundings)
    (length : Nat)
    (s : App)
    (n : Nat) : Nat :=
  (List.range n).countP fun k =>
    isUsable (drawAt w length k s)

/- The reply to a save to come, counted from zero. -/
def replyAt (s : App) (n : Nat) : Reply StoreFault :=
  (s.links.saves[n]?).getD .prompt

/-
  What becomes of an attempt to come, counted from zero, if
  none before it stores a link.
-/
def attemptAt
    (policy : Policy)
    (draft : String → NewLink)
    (w : Surroundings)
    (s : App)
    (n : Nat) : Attempt :=
  match drawAt w policy.codeLength n s with
  | .error fault => .undrawn fault
  | .ok code =>
      if Code.isReserved code then .reserved code
      else
        let k := s.savesBefore w policy.codeLength n
        let came := (s.replyAt k).within policy.storeTimeout
        .saved (draft code)
          (s.links.endSave came (draft code)
            (w.clock (s.readings + k))).1

variable {w : Surroundings} {length : Nat} {s s' : App}

/- Draws hang on the source of codes alone. -/
theorem drawAt_congr
    (hMinter : s'.minter = s.minter)
    (hDraws : s'.draws = s.draws)
    (n : Nat) :
    drawAt w length n s' = drawAt w length n s := by
  induction n generalizing s s' with
  | zero => simp only [drawAt, draw, hMinter, hDraws]
  | succ n ih =>
      refine ih ?_ ?_
      · simp only [draw, hMinter, hDraws]
      · simp only [draw, hDraws]

/- A random source never gives anything but random codes. -/
theorem drawAt_random
    (hMinter : s.minter = .random)
    (n : Nat) :
    drawAt w length n s =
      Minter.mintRandom (w.entropy (s.draws + n)) length := by
  induction n generalizing s with
  | zero =>
      simp only [drawAt, draw, hMinter, Minter.draw,
        Nat.add_zero]
  | succ n ih =>
      have hNext : (s.draw w length).2.minter = .random := by
        simp only [draw, hMinter, Minter.draw]
      rw [drawAt, ih hNext]
      simp only [draw]
      rw [Nat.add_assoc, Nat.add_comm 1]

/- The first draw makes for a save of its own, or for none. -/
theorem savesBefore_succ (n : Nat) :
    s.savesBefore w length (n + 1) =
      (isUsable (s.draw w length).1).toNat +
        (s.draw w length).2.savesBefore w length n := by
  rw [savesBefore, List.range_succ_eq_map, List.countP_cons,
    List.countP_map, Nat.add_comm]
  refine congrArg₂ _ ?_ rfl
  rw [drawAt]
  cases isUsable (s.draw w length).1 with
  | true => rfl
  | false => rfl

/-
  A state that the first attempt of another one leads to,
  when it is passed over.
-/
structure Passes
    (w : Surroundings)
    (length : Nat)
    (s s' : App) : Prop where
  minter : s'.minter = (s.draw w length).2.minter
  draws : s'.draws = (s.draw w length).2.draws
  store : s'.links.store = s.links.store
  saves :
    s'.links.saves =
      s.links.saves.drop (isUsable (s.draw w length).1).toNat
  readings :
    s'.readings =
      s.readings + (isUsable (s.draw w length).1).toNat

/- How a save is answered hangs on the stored links alone. -/
theorem endSave_congr
    (b b' : StoreBackend)
    (hStore : b'.store = b.store)
    (came : Option (Option StoreFault))
    (new : NewLink)
    (now : Timestamp) :
    (b'.endSave came new now).1 =
      (b.endSave came new now).1 := by
  rcases came with _ | _ | fault
  · rfl
  · simp only [StoreBackend.endSave, hStore]
  · rfl

/- What becomes of later attempts is settled at the start. -/
theorem attemptAt_succ
    {policy : Policy}
    (draft : String → NewLink)
    (hPasses : Passes w policy.codeLength s s')
    (n : Nat) :
    s.attemptAt policy draft w (n + 1) =
      s'.attemptAt policy draft w n := by
  have hDraw :
      ∀ k,
        drawAt w policy.codeLength k s' =
          drawAt w policy.codeLength (k + 1) s :=
    drawAt_congr hPasses.minter hPasses.draws
  have hBefore :
      s.savesBefore w policy.codeLength (n + 1) =
        (isUsable (s.draw w policy.codeLength).1).toNat +
          s'.savesBefore w policy.codeLength n := by
    rw [savesBefore_succ, savesBefore, savesBefore]
    simp only [hDraw, drawAt]
  have hReply :
      ∀ k,
        s'.replyAt k =
          s.replyAt
            ((isUsable (s.draw w policy.codeLength).1).toNat
              + k) := by
    intro k
    rw [replyAt, replyAt, hPasses.saves, List.getElem?_drop]
  simp only [attemptAt, ← hDraw, hBefore, hReply,
    hPasses.readings, Nat.add_assoc,
    endSave_congr _ _ hPasses.store]

end App

end UrlShortener

------------------------------------------------------------
-- One Attempt
------------------------------------------------------------

namespace UrlShortener

/- The store with one link more, if there is one. -/
def LinkStore.adding (s : LinkStore) : Option Link → LinkStore
| none => s
| some link =>
    { s with
        bindings := s.bindings ++ [(link.shortCode, link)]
        lastId := s.lastId + 1 }

namespace StoreBackend

variable (b : StoreBackend)
variable (came : Option (Option StoreFault))
variable (new : NewLink) (now : Timestamp)

/- The end of a save adds the link that it answers, if any. -/
theorem endSave_store :
    (b.endSave came new now).2.store =
      b.store.adding
        ((b.endSave came new now).1.bind Except.toOption) := by
  rcases b.endSave_cases came new now with
    ⟨hSame, hNone⟩ | ⟨_, hSave⟩
  · rw [hSame]
    rcases hAnswer : (b.endSave came new now).1 with
      _ | fault | link
    · rfl
    · rfl
    · exact absurd hAnswer (hNone link)
  · rw [hSave]
    rfl

theorem endSave_saves :
    (b.endSave came new now).2.saves = b.saves := by
  rcases came with _ | _ | fault
  · rfl
  · rfl
  · rfl

end StoreBackend

namespace Shortener

variable {policy : Policy} {w : Surroundings} {s : App}

/- The state after a draw, and after a save of what it gave. -/
def drawn
    (policy : Policy)
    (w : Surroundings)
    (s : App) : App :=
  (s.draw w policy.codeLength).2

def answered
    (policy : Policy)
    (w : Surroundings)
    (s : App)
    (new : NewLink) :
    Option (Except StoreFault Link) × App :=
  let begun := (drawn policy w s).beginSave
  begun.2.endSave w (begun.1.within policy.storeTimeout) new

/- What is saved is answered as the first attempt tells. -/
theorem attemptAt_zero_of_usable
    (draft : String → NewLink)
    {code : String}
    (hDraw : (s.draw w policy.codeLength).1 = .ok code)
    (hFree : ¬ Code.isReserved code = true) :
    s.attemptAt policy draft w 0 =
      .saved (draft code)
        (answered policy w s (draft code)).1 := by
  have hReply : s.replyAt 0 = (drawn policy w s).beginSave.1 :=
    (congrArg Prod.fst (Reply.next_eq s.links.saves)).symm
  have hAnswer :
      (answered policy w s (draft code)).1 =
        (s.links.endSave
          ((drawn policy w s).beginSave.1.within
            policy.storeTimeout)
          (draft code) (w.clock s.readings)).1 :=
    App.endSave_congr s.links
      (drawn policy w s).beginSave.2.links rfl _ _ _
  simp only [App.attemptAt, App.drawAt, hDraw, if_neg hFree,
    App.savesBefore, List.range_zero, List.countP_nil,
    Nat.add_zero, hReply, hAnswer]

/- A link is stored if it is what the save is answered. -/
theorem answered_store
    (policy : Policy)
    (w : Surroundings)
    (s : App)
    (new : NewLink) :
    (answered policy w s new).2.links.store =
      s.links.store.adding
        ((answered policy w s new).1.bind Except.toOption) :=
  (drawn policy w s).beginSave.2.links.endSave_store _ new _

/- After a code that is taken, the next one is drawn. -/
theorem passes_answered
    {code taken : String}
    (hDraw : (s.draw w policy.codeLength).1 = .ok code)
    (hFree : ¬ Code.isReserved code = true)
    {new : NewLink}
    (hTaken :
      (answered policy w s new).1 =
        some (.error (.conflict taken))) :
    App.Passes w policy.codeLength s
      ((answered policy w s new).2.note .collisions) := by
  have hUsable :
      App.isUsable (s.draw w policy.codeLength).1 = true := by
    rw [hDraw, App.isUsable, Bool.eq_false_iff.mpr hFree]
    rfl
  refine ⟨rfl, rfl, ?_, ?_, ?_⟩
  · have hStore := answered_store policy w s new
    rw [hTaken] at hStore
    exact hStore
  · rw [hUsable]
    have hSaves :=
      (drawn policy w s).beginSave.2.links.endSave_saves
        ((drawn policy w s).beginSave.1.within
          policy.storeTimeout) new (w.clock s.readings)
    exact hSaves.trans
      (congrArg Prod.snd (Reply.next_eq s.links.saves))
  · rw [hUsable]
    rfl

/-
  From a state, a dialogue makes a number of attempts, asks
  for something more and comes to a result. Just a link that
  is the result is stored.
-/
structure Scans
    (policy : Policy)
    (draft : String → NewLink)
    (w : Surroundings)
    (s : App)
    (d : Dialogue (Except Failure Link))
    (n : Nat)
    (last : List Ask)
    (result : Except Failure Link) : Prop where
  result_eq : (d.run w s).1 = result
  asks_eq :
    d.asks w s =
      ((List.range n).map
        (s.attemptAt policy draft w)).flatMap Attempt.asks
        ++ last
  store_eq :
    (d.run w s).2.links.store =
      s.links.store.adding result.toOption

/-
  From a state, a dialogue passes over its first attempt and
  goes on with what is left of it.
-/
structure PassesOver
    (policy : Policy)
    (draft : String → NewLink)
    (w : Surroundings)
    (s : App)
    (d again : Dialogue (Except Failure Link))
    (s' : App) : Prop where
  passes : App.Passes w policy.codeLength s s'
  run_eq : d.run w s = again.run w s'
  asks_eq :
    d.asks w s =
      (s.attemptAt policy draft w 0).asks
        ++ again.asks w s'

/- Without a code, a creation is over. -/
theorem scans_of_undrawn
    (draft : String → NewLink)
    (left : Nat)
    {fault : MintFault}
    (hDraw : (s.draw w policy.codeLength).1 = .error fault) :
    s.attemptAt policy draft w 0 = .undrawn fault ∧
      Scans policy draft w s (attempt policy draft (left + 1))
        1 [] (.error (.ofMint fault)) := by
  have hFirst :
      s.attemptAt policy draft w 0 = .undrawn fault := by
    simp only [App.attemptAt, App.drawAt, hDraw]
  refine ⟨hFirst, ?_, ?_, ?_⟩
  · simp only [attempt, Dialogue.run, hDraw]
  · simp only [attempt, Dialogue.asks, hDraw, List.range_one,
      List.map_singleton, hFirst]
    rfl
  · simp only [attempt, Dialogue.run, hDraw]
    rfl

/- A reserved code is passed over. -/
theorem passesOver_of_reserved
    (draft : String → NewLink)
    (left : Nat)
    {code : String}
    (hDraw : (s.draw w policy.codeLength).1 = .ok code)
    (hReserved : Code.isReserved code = true) :
    s.attemptAt policy draft w 0 = .reserved code ∧
      PassesOver policy draft w s
        (attempt policy draft (left + 1))
        (attempt policy draft left) (drawn policy w s) := by
  have hFirst :
      s.attemptAt policy draft w 0 = .reserved code := by
    simp only [App.attemptAt, App.drawAt, hDraw,
      if_pos hReserved]
  have hUnusable :
      App.isUsable (s.draw w policy.codeLength).1 = false := by
    rw [hDraw, App.isUsable, hReserved]
    rfl
  refine ⟨hFirst, ⟨rfl, rfl, rfl, ?_, ?_⟩, ?_, ?_⟩
  · rw [hUnusable]
    rfl
  · rw [hUnusable]
    rfl
  · simp only [attempt, Dialogue.run, hDraw, if_pos hReserved]
    rfl
  · simp only [attempt, Dialogue.asks, hDraw,
      if_pos hReserved, hFirst]
    rfl

/- Any other code is saved, and the creation goes on. -/
theorem run_of_usable
    (draft : String → NewLink)
    (left : Nat)
    {code : String}
    (hDraw : (s.draw w policy.codeLength).1 = .ok code)
    (hFree : ¬ Code.isReserved code = true) :
    let begun := attempt policy draft (left + 1)
    let answer := answered policy w s (draft code)
    let next :=
      afterSave policy (attempt policy draft left) answer.1
    begun.run w s = next.run w answer.2 ∧
      begun.asks w s =
        .code :: .save (draft code) :: next.asks w answer.2 := by
  intro begun answer next
  constructor
  · simp only [begun, attempt, Dialogue.run, hDraw,
      if_neg hFree]
    rfl
  · simp only [begun, attempt, Dialogue.asks, hDraw,
      if_neg hFree]
    rfl

/- An answer other than a taken code ends the creation. -/
theorem afterSave_ends
    (policy : Policy)
    (new : NewLink)
    {answer : Option (Except StoreFault Link)}
    (hOther :
      ∀ taken, answer ≠ some (.error (.conflict taken))) :
    ∃ result : Except Failure Link,
      (Attempt.saved new answer).result? policy = some result ∧
      answer.bind Except.toOption = result.toOption ∧
      ∀ (again : Dialogue (Except Failure Link)) (t : App),
        let next := afterSave policy again answer
        (next.run w t).1 = result ∧
        (next.run w t).2.links = t.links ∧
        .code :: .save new :: next.asks w t =
          (Attempt.saved new answer).asks := by
  rcases answer with _ | fault | link
  · exact ⟨_, rfl, rfl, fun _ _ => ⟨rfl, rfl, rfl⟩⟩
  · cases fault with
    | conflict taken => exact absurd rfl (hOther taken)
    | _ => exact ⟨_, rfl, rfl, fun _ _ => ⟨rfl, rfl, rfl⟩⟩
  · exact ⟨_, rfl, rfl, fun _ _ => ⟨rfl, rfl, rfl⟩⟩

/- A code that is neither reserved nor taken decides. -/
theorem scans_of_usable
    {draft : String → NewLink}
    {code : String}
    (hDraw : (s.draw w policy.codeLength).1 = .ok code)
    (hFree : ¬ Code.isReserved code = true)
    (hOther :
      ∀ taken,
        (answered policy w s (draft code)).1 ≠
          some (.error (.conflict taken)))
    (left : Nat) :
    ∃ result,
      (s.attemptAt policy draft w 0).result? policy =
          some result ∧
        Scans policy draft w s
          (attempt policy draft (left + 1)) 1 [] result := by
  have hFirst :=
    attemptAt_zero_of_usable draft hDraw hFree
  have hRun :=
    run_of_usable draft left hDraw hFree
  dsimp only at hRun
  rcases afterSave_ends (w := w) policy (draft code) hOther with
    ⟨result, hResult, hLink, hEnd⟩
  have hEnds :=
    hEnd (attempt policy draft left)
      (answered policy w s (draft code)).2
  refine ⟨result, ?_, ?_, ?_, ?_⟩
  · rw [hFirst]
    exact hResult
  · rw [hRun.1]
    exact hEnds.1
  · rw [hRun.2, hEnds.2.2, List.range_one, List.map_singleton,
      List.flatMap_singleton, List.append_nil, hFirst]
  · rw [hRun.1, hEnds.2.1, answered_store, hLink]

/-
  All that the first attempt can do: end the creation with
  its result, or be passed over.
-/
theorem first_attempt_cases
    (policy : Policy)
    (draft : String → NewLink)
    (w : Surroundings)
    (s : App)
    (left : Nat) :
    (∃ result,
      (s.attemptAt policy draft w 0).result? policy =
          some result ∧
        Scans policy draft w s
          (attempt policy draft (left + 1)) 1 [] result) ∨
    ((s.attemptAt policy draft w 0).result? policy = none ∧
      ∃ s',
        PassesOver policy draft w s
          (attempt policy draft (left + 1))
          (attempt policy draft left) s') := by
  cases hDraw : (s.draw w policy.codeLength).1 with
  | error fault =>
      have hScans :=
        scans_of_undrawn draft left hDraw
      refine Or.inl ⟨_, ?_, hScans.2⟩
      rw [hScans.1]
      rfl
  | ok code =>
      by_cases hReserved : Code.isReserved code = true
      · have hPasses :=
          passesOver_of_reserved draft left hDraw hReserved
        refine Or.inr ⟨?_, _, hPasses.2⟩
        rw [hPasses.1]
        rfl
      · by_cases hTaken :
            ∃ taken,
              (answered policy w s (draft code)).1 =
                some (.error (.conflict taken))
        · rcases hTaken with ⟨taken, hTaken⟩
          have hFirst :=
            attemptAt_zero_of_usable draft hDraw
              hReserved
          have hRun :=
            run_of_usable draft left hDraw
              hReserved
          dsimp only at hRun
          rw [hTaken] at hFirst hRun
          refine Or.inr ⟨?_, _,
            passes_answered hDraw hReserved hTaken, hRun.1, ?_⟩
          · rw [hFirst]
            rfl
          · rw [hRun.2, hFirst]
            rfl
        · exact Or.inl
            (scans_of_usable hDraw hReserved
              (not_exists.mp hTaken) left)

end Shortener

end UrlShortener

------------------------------------------------------------
-- All Attempts
------------------------------------------------------------

namespace UrlShortener

namespace Shortener

variable {policy : Policy} {draft : String → NewLink}
variable {w : Surroundings} {s : App}

/- An attempt that is passed over comes before the others. -/
theorem PassesOver.scans
    {d again : Dialogue (Except Failure Link)}
    {s' : App}
    {n : Nat}
    {last : List Ask}
    {result : Except Failure Link}
    (hOver : PassesOver policy draft w s d again s')
    (hScans : Scans policy draft w s' again n last result) :
    Scans policy draft w s d (n + 1) last result where
  result_eq := by
    rw [hOver.run_eq]
    exact hScans.result_eq
  asks_eq := by
    have hLater :
        (s.attemptAt policy draft w) ∘ Nat.succ =
          s'.attemptAt policy draft w :=
      funext (App.attemptAt_succ draft hOver.passes)
    rw [hOver.asks_eq, hScans.asks_eq, List.range_succ_eq_map,
      List.map_cons, List.map_map, hLater, List.flatMap_cons,
      List.append_assoc]
  store_eq := by
    rw [hOver.run_eq, hScans.store_eq, hOver.passes.store]

/-
  The attempts that are left are made in order. The first
  that is not passed over is the last, and its result is the
  result of all; if there is none, the codes are exhausted.
-/
theorem attempt_scans
    (policy : Policy)
    (draft : String → NewLink)
    (w : Surroundings)
    (left : Nat)
    (s : App) :
    (∀ n result, n < left →
      (∀ k < n,
        (s.attemptAt policy draft w k).result? policy = none) →
      (s.attemptAt policy draft w n).result? policy =
          some result →
        Scans policy draft w s (attempt policy draft left)
          (n + 1) [] result) ∧
    ((∀ k < left,
        (s.attemptAt policy draft w k).result? policy = none) →
      Scans policy draft w s (attempt policy draft left) left
        [.note .exhausted]
        (.error (.exhausted policy.maxAttempts))) := by
  induction left generalizing s with
  | zero => exact ⟨nofun, fun _ => ⟨rfl, rfl, rfl⟩⟩
  | succ left ih =>
      rcases first_attempt_cases policy draft w s left with
        ⟨first, hFirst, hScans⟩ | ⟨hFirst, s', hOver⟩
      · constructor
        · intro n result hLe hBefore hResult
          cases n with
          | zero =>
              rw [hFirst] at hResult
              cases hResult
              exact hScans
          | succ n =>
              rw [hBefore 0 (Nat.succ_pos n)] at hFirst
              cases hFirst
        · intro hNone
          rw [hNone 0 (Nat.succ_pos left)] at hFirst
          cases hFirst
      · have hLater := App.attemptAt_succ draft hOver.passes
        constructor
        · intro n result hLt hBefore hResult
          cases n with
          | zero =>
              rw [hFirst] at hResult
              cases hResult
          | succ n =>
              apply hOver.scans
              apply (ih s').1 n result (Nat.lt_of_succ_lt_succ hLt)
              · intro k hLt
                rw [← hLater]
                exact hBefore (k + 1) (Nat.succ_lt_succ hLt)
              · rw [← hLater]
                exact hResult
        · intro hNone
          apply hOver.scans
          apply (ih s').2
          intro k hLt
          rw [← hLater]
          exact hNone (k + 1) (Nat.succ_lt_succ hLt)

/- Whatever becomes of them, some attempts are made. -/
theorem exists_scans
    (policy : Policy)
    (draft : String → NewLink)
    (w : Surroundings)
    (left : Nat)
    (s : App) :
    ∃ n last result,
      Scans policy draft w s (attempt policy draft left) n last
        result := by
  induction left generalizing s with
  | zero => exact ⟨0, _, _, rfl, rfl, rfl⟩
  | succ left ih =>
      rcases first_attempt_cases policy draft w s left with
        ⟨result, _, hScans⟩ | ⟨_, s', hOver⟩
      · exact ⟨1, [], result, hScans⟩
      · rcases ih s' with ⟨n, last, result, hScans⟩
        exact ⟨n + 1, last, result, hOver.scans hScans⟩

end Shortener

end UrlShortener
