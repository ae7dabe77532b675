import Mathlib.Tactic.Common
import UrlShortener.Proofs.Store.Content

/-
  Histories of a link store: the calls it served, one after
  another, and what they were answered. Whatever the calls,
  a store that started empty holds just the links that its
  saves were answered, and once closed it never changes.

  Key definitions include:
    * `StoreCall`
    * `StoreAnswer`
    * `LinkStore.answer`
    * `LinkStore.serve`
    * `savedLinks`

  Main declarations:
    * `LinkStore.Holds.serve`
    * `LinkStore.serve_of_closed`
    * `LinkStore.served_store_holds_saved_links`
-/

------------------------------------------------------------
-- Calls And Answers
------------------------------------------------------------

namespace UrlShortener

/- A call of the link store. -/
inductive StoreCall where
| save (new : NewLink)
| find (code : String)
| ping
| close
| size
| isEmpty
deriving DecidableEq, Repr

/- What a call of the link store is answered. -/
inductive StoreAnswer where
| saved (result : Except StoreFault Link)
| found (result : Except StoreFault Link)
| pinged (result : Except StoreFault Unit)
| closed (result : Except StoreFault Unit)
| sized (n : Nat)
| emptied (empty : Bool)
deriving Repr

namespace StoreCall

/- Whether a call is a save. -/
def isSave : StoreCall → Bool
| .save _ => true
| _ => false

/-
  What a closed store with a number of links answers: it
  refuses to save, to look up and to be pinged. Closing it
  again and asking for its size go well.
-/
def refused (size : Nat) : StoreCall → StoreAnswer
| .save _ => .saved (.error .closed)
| .find _ => .found (.error .closed)
| .ping => .pinged (.error .closed)
| .close => .closed (.ok ())
| .size => .sized size
| .isEmpty => .emptied (size == 0)

end StoreCall

namespace StoreAnswer

/- The link of a save that went well. -/
def link? : StoreAnswer → Option Link
| .saved (.ok link) => some link
| _ => none

end StoreAnswer

/- The links of the saves that went well, in their order. -/
def savedLinks (answers : List StoreAnswer) : List Link :=
  answers.filterMap StoreAnswer.link?

end UrlShortener

------------------------------------------------------------
-- Serving Calls
------------------------------------------------------------

namespace UrlShortener

namespace LinkStore

/- Answer a call at a time. -/
def answer
    (now : Timestamp)
    (call : StoreCall)
    (s : LinkStore) : StoreAnswer × LinkStore :=
  match call with
  | .save new => ((s.save new now).map .saved id)
  | .find code => (.found (s.find code), s)
  | .ping => (.pinged s.ping, s)
  | .close => (.closed (.ok ()), s.close)
  | .size => (.sized s.size, s)
  | .isEmpty => (.emptied s.isEmpty, s)

/- Answer calls one after another. -/
def serve :
    List (Timestamp × StoreCall) →
    LinkStore → List StoreAnswer × LinkStore
| [], s => ([], s)
| (now, call) :: later, s =>
    let (answer, s) := s.answer now call
    let (answers, s) := serve later s
    (answer :: answers, s)

@[simp] theorem serve_nil (s : LinkStore) :
    serve [] s = ([], s) := rfl

@[simp] theorem serve_cons
    (now : Timestamp)
    (call : StoreCall)
    (later : List (Timestamp × StoreCall))
    (s : LinkStore) :
    serve ((now, call) :: later) s =
      ((s.answer now call).1 ::
          (serve later (s.answer now call).2).1,
        (serve later (s.answer now call).2).2) := rfl

/- More calls are served by the store that the first leave. -/
theorem serve_append
    (calls later : List (Timestamp × StoreCall))
    (s : LinkStore) :
    serve (calls ++ later) s =
      ((serve calls s).1 ++ (serve later (serve calls s).2).1,
        (serve later (serve calls s).2).2) := by
  induction calls generalizing s with
  | nil => rfl
  | cons timed calls ih =>
      rcases timed with ⟨now, call⟩
      simp only [List.cons_append, serve_cons, ih]

end LinkStore

end UrlShortener

------------------------------------------------------------
-- Closing
------------------------------------------------------------

namespace UrlShortener

namespace LinkStore

/- A store is empty when its size is zero. -/
theorem isEmpty_eq (s : LinkStore) :
    s.isEmpty = (s.size == 0) := by
  unfold isEmpty size
  cases s.bindings with
  | nil => rfl
  | cons binding bindings => rfl

/- Only a close closes a store, and nothing opens it again. -/
theorem answer_closed
    (now : Timestamp)
    (call : StoreCall)
    (s : LinkStore) :
    (s.answer now call).2.closed =
      (s.closed || call == .close) := by
  cases call with
  | save new =>
      rcases save_cases s new now with
        ⟨hClosed, hSave⟩ | ⟨hClosed, _, hSave⟩ |
          ⟨hClosed, _, hSave⟩
      · simp [answer, hSave, hClosed]
      · simp [answer, hSave, hClosed]
      · simp [answer, hSave, insert, hClosed]
  | find code => simp [answer]
  | ping => simp [answer]
  | close => simp [answer, close]
  | size => simp [answer]
  | isEmpty => simp [answer]

/- A store is closed once a close was among its calls. -/
theorem serve_closed_iff
    (calls : List (Timestamp × StoreCall))
    (s : LinkStore) :
    (serve calls s).2.closed = true ↔
      s.closed = true ∨
        StoreCall.close ∈ calls.map Prod.snd := by
  induction calls generalizing s with
  | nil => simp
  | cons timed calls ih =>
      rcases timed with ⟨now, call⟩
      rw [serve_cons, ih, answer_closed]
      simp only [Bool.or_eq_true, beq_iff_eq, List.map_cons,
        List.mem_cons, or_assoc,
        @eq_comm _ StoreCall.close call]

/- A closed store refuses every call and never changes. -/
theorem serve_of_closed
    {s : LinkStore}
    (hClosed : s.closed = true)
    (calls : List (Timestamp × StoreCall)) :
    serve calls s =
      (calls.map fun c => c.2.refused s.size, s) := by
  induction calls with
  | nil => rfl
  | cons timed calls ih =>
      rcases timed with ⟨now, call⟩
      have hAnswer :
          s.answer now call = (call.refused s.size, s) := by
        cases call with
        | save new =>
            simp [answer, save_of_closed hClosed,
              StoreCall.refused]
        | find code =>
            simp [answer, find_of_closed hClosed,
              StoreCall.refused]
        | ping =>
            simp [answer, ping, hClosed, StoreCall.refused]
        | close =>
            cases s
            simp_all [answer, close, StoreCall.refused]
        | size => rfl
        | isEmpty =>
            simp [answer, isEmpty_eq, StoreCall.refused]
      rw [serve_cons, hAnswer, ih]
      rfl

end LinkStore

end UrlShortener

------------------------------------------------------------
-- What A Served Store Holds
------------------------------------------------------------

namespace UrlShortener

@[simp] theorem savedLinks_nil : savedLinks [] = [] := rfl

theorem savedLinks_cons
    (answer : StoreAnswer)
    (answers : List StoreAnswer) :
    savedLinks (answer :: answers) =
      answer.link?.toList ++ savedLinks answers := by
  unfold savedLinks
  cases hLink : answer.link? with
  | none => simp [hLink]
  | some link => simp [hLink]

namespace LinkStore

namespace Holds

variable {s : LinkStore} {links : List Link}

/- A call adds the link it was answered, if it was a save. -/
theorem answer
    (hHolds : s.Holds links)
    (now : Timestamp)
    (call : StoreCall) :
    (s.answer now call).2.Holds
      (links ++ (s.answer now call).1.link?.toList) := by
  cases call with
  | save new =>
      rcases save_cases s new now with
        ⟨_, hSave⟩ | ⟨_, _, hSave⟩ | ⟨_, hFree, hSave⟩
      · simpa [LinkStore.answer, hSave, StoreAnswer.link?]
          using hHolds
      · simpa [LinkStore.answer, hSave, StoreAnswer.link?]
          using hHolds
      · simpa [LinkStore.answer, hSave, StoreAnswer.link?]
          using hHolds.insert hFree now
  | find code =>
      simpa [LinkStore.answer, StoreAnswer.link?] using hHolds
  | ping =>
      simpa [LinkStore.answer, StoreAnswer.link?] using hHolds
  | close =>
      simpa [LinkStore.answer, StoreAnswer.link?] using hHolds.close
  | size =>
      simpa [LinkStore.answer, StoreAnswer.link?] using hHolds
  | isEmpty =>
      simpa [LinkStore.answer, StoreAnswer.link?] using hHolds

/- Calls add the links that their saves were answered. -/
theorem serve
    (hHolds : s.Holds links)
    (calls : List (Timestamp × StoreCall)) :
    (serve calls s).2.Holds
      (links ++ savedLinks (LinkStore.serve calls s).1) := by
  induction calls generalizing s links with
  | nil => simpa using hHolds
  | cons timed calls ih =>
      rcases timed with ⟨now, call⟩
      rw [serve_cons, savedLinks_cons, ← List.append_assoc]
      exact ih (hHolds.answer now call)

/- The size of a store is the number of its links. -/
theorem size_eq (hHolds : s.Holds links) :
    s.size = links.length := by
  unfold size
  rw [hHolds.bindings_eq, List.length_map]

/- A code is taken when a held link has it. -/
theorem isSome_get?_iff
    (hHolds : s.Holds links)
    {code : String} :
    (s.get? code).isSome = true ↔
      ∃ link ∈ links, link.shortCode = code := by
  rw [Option.isSome_iff_exists]
  simp only [hHolds.get?_eq_some_iff]

/- Only a taken code makes an open store refuse a save. -/
theorem save_eq_conflict_iff
    (hHolds : s.Holds links)
    (new : NewLink)
    (now : Timestamp)
    (code : String) :
    (s.save new now).1 = .error (.conflict code) ↔
      s.closed = false ∧ code = new.shortCode ∧
        ∃ link ∈ links, link.shortCode = code := by
  rcases save_cases s new now with
    ⟨hClosed, hSave⟩ | ⟨hClosed, hTaken, hSave⟩ |
      ⟨hClosed, hFree, hSave⟩
  · simp [hSave, hClosed]
  · simp only [hSave, hClosed, Except.error.injEq,
      StoreFault.conflict.injEq, true_and]
    constructor
    · rintro rfl
      exact ⟨rfl, hHolds.isSome_get?_iff.mp hTaken⟩
    · exact fun h => h.1.symm
  · simp only [hSave, hClosed, reduceCtorEq, true_and,
      false_iff]
    rintro ⟨rfl, link, hMem, hCode⟩
    exact hHolds.get?_eq_none_iff.mp hFree link hMem hCode

/-
  An open store takes every free code, for a link with the
  next number.
-/
theorem save_eq_ok_iff
    (hHolds : s.Holds links)
    (new : NewLink)
    (now : Timestamp)
    (link : Link) :
    (s.save new now).1 = .ok link ↔
      s.closed = false ∧
        (∀ other ∈ links,
          other.shortCode ≠ new.shortCode) ∧
        link = new.stored (links.length + 1) now := by
  rcases save_cases s new now with
    ⟨hClosed, hSave⟩ | ⟨hClosed, hTaken, hSave⟩ |
      ⟨hClosed, hFree, hSave⟩
  · simp [hSave, hClosed]
  · simp only [hSave, hClosed, reduceCtorEq, true_and,
      false_iff]
    rintro ⟨hFree, _⟩
    rcases hHolds.isSome_get?_iff.mp hTaken with
      ⟨other, hMem, hCode⟩
    exact hFree other hMem hCode
  · have hNumber :
        (s.insert new now).1 =
          new.stored (links.length + 1) now := by
      unfold LinkStore.insert
      rw [hHolds.lastId_eq]
    simp only [hSave, hClosed, hNumber, Except.ok.injEq,
      true_and]
    constructor
    · intro hEq
      exact ⟨hHolds.get?_eq_none_iff.mp hFree, hEq.symm⟩
    · exact fun h => h.2.symm

/- A look-up in an open store answers just the held links. -/
theorem find_eq_ok_iff
    (hHolds : s.Holds links)
    (code : String)
    (link : Link) :
    s.find code = .ok link ↔
      s.closed = false ∧ link ∈ links ∧
        link.shortCode = code := by
  cases hClosed : s.closed with
  | true => simp [find_of_closed hClosed]
  | false =>
      rw [find_of_open hClosed, findOpen_eq_ok_iff,
        hHolds.get?_eq_some_iff]
      simp

end Holds

/- A save that fails changes nothing. -/
theorem save_snd_of_error
    {s : LinkStore}
    {new : NewLink}
    {now : Timestamp}
    {fault : StoreFault}
    (hFault : (s.save new now).1 = .error fault) :
    (s.save new now).2 = s := by
  rcases save_cases s new now with
    ⟨_, hSave⟩ | ⟨_, _, hSave⟩ | ⟨_, _, hSave⟩
  · rw [hSave]
  · rw [hSave]
  · rw [hSave] at hFault
    cases hFault

/- A store does not hold more links than it was asked to save. -/
theorem savedLinks_length_le
    (calls : List (Timestamp × StoreCall))
    (s : LinkStore) :
    (savedLinks (serve calls s).1).length ≤
      calls.countP fun c => c.2.isSave := by
  induction calls generalizing s with
  | nil => simp
  | cons timed calls ih =>
      rcases timed with ⟨now, call⟩
      have hOne :
          (s.answer now call).1.link?.toList.length ≤
            if call.isSave then 1 else 0 := by
        cases call with
        | save new => exact Option.length_toList_le
        | _ => exact Nat.le_refl 0
      have hRest := ih (s.answer now call).2
      rw [serve_cons, savedLinks_cons, List.length_append,
        List.countP_cons, Nat.add_comm]
      exact Nat.add_le_add hRest hOne

end LinkStore

end UrlShortener

------------------------------------------------------------
-- The Invariant
------------------------------------------------------------

namespace UrlShortener

namespace LinkStore

/-
  Whatever calls a store has served since it was empty: it
  holds the links that its saves were answered, in their
  order, under their codes and numbered from one, so that
  no number is greater than the number of saves asked for.
  It is closed when a close was among the calls. From there
  on, a save fails without a trace, a code is refused just
  when a link has it, a look-up answers the link of the save,
  and a closed store refuses for ever what it is asked to do.
-/
theorem served_store_holds_saved_links
    (calls : List (Timestamp × StoreCall)) :
    let s := (serve calls empty).2
    let links := savedLinks (serve calls empty).1
    s.Holds links ∧
      s.size = links.length ∧
      (∀ link ∈ links,
        1 ≤ link.id ∧
          link.id ≤ calls.countP fun c => c.2.isSave) ∧
      (s.closed = true ↔
        StoreCall.close ∈ calls.map Prod.snd) ∧
      (∀ new now fault,
        (s.save new now).1 = .error fault →
          (s.save new now).2 = s) ∧
      (∀ new now code,
        (s.save new now).1 = .error (.conflict code) ↔
          s.closed = false ∧ code = new.shortCode ∧
            ∃ link ∈ links, link.shortCode = code) ∧
      (∀ new now link,
        (s.save new now).1 = .ok link ↔
          s.closed = false ∧
            (∀ other ∈ links,
              other.shortCode ≠ new.shortCode) ∧
            link = new.stored (links.length + 1) now) ∧
      (∀ code link,
        s.find code = .ok link ↔
          s.closed = false ∧ link ∈ links ∧
            link.shortCode = code) ∧
      (∀ later,
        serve later s.close =
          (later.map fun c => c.2.refused links.length,
            s.close)) := by
  intro s links
  have hHolds : s.Holds links := by
    simpa using holds_empty.serve calls
  refine ⟨hHolds, hHolds.size_eq, ?_, ?_, ?_,
    hHolds.save_eq_conflict_iff, hHolds.save_eq_ok_iff,
    hHolds.find_eq_ok_iff, ?_⟩
  · intro link hMem
    have hRange := hHolds.id_mem_range hMem
    have hCount :
        links.length ≤ calls.countP fun c => c.2.isSave :=
      savedLinks_length_le calls empty
    exact ⟨hRange.1, by omega⟩
  · have hEmpty : ¬ empty.closed = true := by
      simp [empty]
    exact (serve_closed_iff calls empty).trans
      (or_iff_right hEmpty)
  · intro new now fault hFault
    exact save_snd_of_error hFault
  · intro later
    have hSize : s.close.size = links.length :=
      hHolds.close.size_eq
    rw [← hSize]
    exact serve_of_closed rfl later

end LinkStore

end UrlShortener
