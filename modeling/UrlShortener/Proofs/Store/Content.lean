import Mathlib.Data.List.Nodup
import UrlShortener.Store.Memory

/-
  The content of a link store. A store that was filled by
  saves alone holds a list of links, in the order of their
  saves: under their codes, no code twice, and numbered from
  one without gaps.

  Main declarations:
    * `LinkStore.get?_insert`
    * `LinkStore.Holds`
    * `LinkStore.Holds.get?_eq_some_iff`
    * `LinkStore.Holds.insert`
-/

------------------------------------------------------------
-- Look-Ups
------------------------------------------------------------

namespace UrlShortener

namespace LinkStore

/- A code is taken when a look-up finds a link under it. -/
theorem contains_eq_isSome
    (s : LinkStore)
    (code : String) :
    s.contains code = (s.get? code).isSome := by
  unfold contains get?
  rw [Option.isSome_map, Bool.eq_iff_iff,
    List.find?_isSome, List.any_eq_true]

/-
  A stored link is found under its code, unless an earlier
  one hides it; every other look-up answers as before.
-/
theorem get?_insert
    (s : LinkStore)
    (new : NewLink)
    (now : Timestamp)
    (code : String) :
    (s.insert new now).2.get? code =
      (s.get? code).or
        (if new.shortCode = code then
          some (s.insert new now).1
        else
          none) := by
  unfold insert get? NewLink.stored
  rw [List.find?_append, Option.map_or]
  by_cases hCode : new.shortCode = code
  · simp [hCode]
  · simp [hCode]

/- A link found before a save is found after it. -/
theorem get?_insert_of_some
    {s : LinkStore}
    {new : NewLink}
    {now : Timestamp}
    {code : String}
    {link : Link}
    (hFound : s.get? code = some link) :
    (s.insert new now).2.get? code = some link := by
  rw [get?_insert, hFound, Option.some_or]

/- A link stored under a free code is found there. -/
theorem get?_insert_self
    {s : LinkStore}
    {new : NewLink}
    {now : Timestamp}
    (hFree : s.get? new.shortCode = none) :
    (s.insert new now).2.get? new.shortCode =
      some (s.insert new now).1 := by
  rw [get?_insert, hFree, if_pos rfl, Option.none_or]

end LinkStore

end UrlShortener

------------------------------------------------------------
-- Saves And Finds Of An Open Store
------------------------------------------------------------

namespace UrlShortener

namespace LinkStore

/-
  All that a save behind the lock can do: a taken code is
  refused and nothing changes, a free one is given a link.
-/
theorem saveOpen_cases
    (s : LinkStore)
    (new : NewLink)
    (now : Timestamp) :
    ((s.get? new.shortCode).isSome = true ∧
      s.saveOpen new now =
        (.error (.conflict new.shortCode), s)) ∨
    (s.get? new.shortCode = none ∧
      s.saveOpen new now =
        (.ok (s.insert new now).1,
          (s.insert new now).2)) := by
  unfold saveOpen
  rw [contains_eq_isSome]
  cases hFound : s.get? new.shortCode with
  | none => exact Or.inr ⟨rfl, rfl⟩
  | some link => exact Or.inl ⟨rfl, rfl⟩

/- A save of an open store is what is left behind the lock. -/
theorem save_of_open
    {s : LinkStore}
    (hOpen : s.closed = false)
    (new : NewLink)
    (now : Timestamp) :
    s.save new now = s.saveOpen new now := by
  unfold save
  rw [hOpen]
  rfl

/- A look-up in an open store is what is left behind the lock. -/
theorem find_of_open
    {s : LinkStore}
    (hOpen : s.closed = false)
    (code : String) :
    s.find code = s.findOpen code := by
  unfold find
  rw [hOpen]
  rfl

/- A closed store refuses a save and stays as it is. -/
theorem save_of_closed
    {s : LinkStore}
    (hClosed : s.closed = true)
    (new : NewLink)
    (now : Timestamp) :
    s.save new now = (.error .closed, s) := by
  unfold save
  rw [if_pos hClosed]

/- A closed store refuses a look-up. -/
theorem find_of_closed
    {s : LinkStore}
    (hClosed : s.closed = true)
    (code : String) :
    s.find code = .error .closed := by
  unfold find
  rw [if_pos hClosed]

/- All that a save can do. -/
theorem save_cases
    (s : LinkStore)
    (new : NewLink)
    (now : Timestamp) :
    (s.closed = true ∧
      s.save new now = (.error .closed, s)) ∨
    (s.closed = false ∧
      (s.get? new.shortCode).isSome = true ∧
      s.save new now =
        (.error (.conflict new.shortCode), s)) ∨
    (s.closed = false ∧
      s.get? new.shortCode = none ∧
      s.save new now =
        (.ok (s.insert new now).1,
          (s.insert new now).2)) := by
  cases hClosed : s.closed with
  | true =>
      exact Or.inl ⟨rfl, save_of_closed hClosed new now⟩
  | false =>
      rw [save_of_open hClosed]
      rcases saveOpen_cases s new now with hTaken | hFree
      · exact Or.inr (Or.inl ⟨rfl, hTaken⟩)
      · exact Or.inr (Or.inr ⟨rfl, hFree⟩)

/- A look-up in an open store answers just what it finds. -/
theorem findOpen_eq_ok_iff
    {s : LinkStore}
    {code : String}
    {link : Link} :
    s.findOpen code = .ok link ↔
      s.get? code = some link := by
  unfold findOpen
  cases s.get? code with
  | none => simp
  | some found => simp

end LinkStore

end UrlShortener

------------------------------------------------------------
-- The Links That A Store Holds
------------------------------------------------------------

namespace UrlShortener

namespace LinkStore

/-
  The store holds a list of links, in the order of their
  saves, and nothing else.
-/
structure Holds
    (s : LinkStore)
    (links : List Link) : Prop where
  bindings_eq :
    s.bindings = links.map fun l => (l.shortCode, l)
  numbered :
    links.map Link.id =
      (List.range links.length).map fun i : Nat =>
        (i : Int) + 1
  distinct : (links.map Link.shortCode).Nodup
  lastId_eq : s.lastId = links.length

/- The empty store holds no links. -/
theorem holds_empty : LinkStore.empty.Holds [] where
  bindings_eq := rfl
  numbered := rfl
  distinct := List.nodup_nil
  lastId_eq := rfl

namespace Holds

variable {s : LinkStore} {links : List Link}

/- A look-up is one in the list of links. -/
theorem get?_eq
    (hHolds : s.Holds links)
    (code : String) :
    s.get? code =
      links.find? fun l => l.shortCode == code := by
  unfold get?
  rw [hHolds.bindings_eq, List.find?_map, Option.map_map]
  exact Option.map_id_apply

/- Just the links that are held are found, under their codes. -/
theorem get?_eq_some_iff
    (hHolds : s.Holds links)
    {code : String}
    {link : Link} :
    s.get? code = some link ↔
      link ∈ links ∧ link.shortCode = code := by
  rw [hHolds.get?_eq]
  constructor
  · intro hFound
    have hCode : link.shortCode = code := by
      simpa using List.find?_some hFound
    exact ⟨List.mem_of_find?_eq_some hFound, hCode⟩
  · rintro ⟨hMem, rfl⟩
    cases hFound :
        links.find? fun l =>
          l.shortCode == link.shortCode with
    | none =>
        have hNone := List.find?_eq_none.mp hFound link hMem
        simp at hNone
    | some found =>
        have hCode :
            found.shortCode = link.shortCode := by
          simpa using List.find?_some hFound
        have hFoundMem := List.mem_of_find?_eq_some hFound
        rw [List.inj_on_of_nodup_map hHolds.distinct
          hFoundMem hMem hCode]

/- A code is free when no link has it. -/
theorem get?_eq_none_iff
    (hHolds : s.Holds links)
    {code : String} :
    s.get? code = none ↔
      ∀ link ∈ links, link.shortCode ≠ code := by
  rw [hHolds.get?_eq, List.find?_eq_none]
  simp

/- The numbers of the links lie between one and their count. -/
theorem id_mem_range
    (hHolds : s.Holds links)
    {link : Link}
    (hMem : link ∈ links) :
    1 ≤ link.id ∧ link.id ≤ links.length := by
  have hId : link.id ∈ links.map Link.id :=
    List.mem_map_of_mem hMem
  rw [hHolds.numbered] at hId
  rcases List.mem_map.mp hId with ⟨i, hRange, hEq⟩
  have hLt := List.mem_range.mp hRange
  omega

/- Storing a link under a free code adds it at the end. -/
theorem insert
    (hHolds : s.Holds links)
    {new : NewLink}
    (hFree : s.get? new.shortCode = none)
    (now : Timestamp) :
    (s.insert new now).2.Holds
      (links ++ [(s.insert new now).1]) where
  bindings_eq := by
    simp [LinkStore.insert, hHolds.bindings_eq]
  numbered := by
    simp [LinkStore.insert, NewLink.stored, hHolds.numbered,
      hHolds.lastId_eq, List.range_succ]
  distinct := by
    rw [List.map_append, List.nodup_append]
    refine ⟨hHolds.distinct, List.nodup_singleton _, ?_⟩
    intro code hCode other hOther
    rcases List.mem_map.mp hCode with ⟨link, hMem, rfl⟩
    rw [List.map_singleton, List.mem_singleton] at hOther
    subst hOther
    exact hHolds.get?_eq_none_iff.mp hFree link hMem
  lastId_eq := by
    simp [LinkStore.insert, hHolds.lastId_eq]

/- Closing a store does not touch its links. -/
theorem close (hHolds : s.Holds links) : s.close.Holds links where
  bindings_eq := hHolds.bindings_eq
  numbered := hHolds.numbered
  distinct := hHolds.distinct
  lastId_eq := hHolds.lastId_eq

end Holds

end LinkStore

end UrlShortener
