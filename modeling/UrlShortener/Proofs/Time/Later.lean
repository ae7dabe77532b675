import UrlShortener.Time.Timestamp

/-
  Points of time that lie later. Adding seconds to a point of
  the calendar leads to the one point that is just as many
  seconds away, or beyond the calendar; it never leads back.
  A leap second that is left behind counts as a second.

  Key definitions include:
    * `Timestamp.IsInstant`
    * `Timestamp.nanosUntil`
    * `Timestamp.lastSecond`

  Main declarations:
    * `Timestamp.before_iff`
    * `Timestamp.addSeconds?_eq_some_iff`
    * `Timestamp.addSeconds?_eq_none_iff`
    * `Timestamp.before_of_addSeconds?`
-/

------------------------------------------------------------
-- Points Of The Calendar
------------------------------------------------------------

namespace UrlShortener

namespace Timestamp

/- A point of time within the years that are covered. -/
structure IsInstant (t : Timestamp) : Prop where
  covered : Date.firstDay ≤ t.day ∧ t.day ≤ Date.lastDay
  second_lt : t.second < 86400
  nano_lt : t.nano < 2000000000

instance : DecidablePred IsInstant := fun t =>
  decidable_of_iff
    ((Date.firstDay ≤ t.day ∧ t.day ≤ Date.lastDay) ∧
      t.second < 86400 ∧ t.nano < 2000000000)
    ⟨fun ⟨h, h', h''⟩ => ⟨h, h', h''⟩,
      fun ⟨h, h', h''⟩ => ⟨h, h', h''⟩⟩

/- The last second that is covered, counted from 1970. -/
def lastSecond : Int := Date.lastDay * 86400 + 86399

/-
  The nanoseconds from a point of time to one that is not
  earlier. Leaving a leap second takes a second more than the
  count of seconds tells.
-/
def nanosUntil (s t : Timestamp) : Int :=
  (t.epochSeconds - s.epochSeconds) * 1000000000
    + (t.nano - s.nano)
    + if 1000000000 ≤ s.nano
          ∧ s.epochSeconds < t.epochSeconds then
        1000000000
      else
        0

variable {s t : Timestamp}

/- The points of time come in the order of their seconds. -/
theorem before_iff
    (hFirst : s.second < 86400)
    (hSecond : t.second < 86400) :
    s.before t = true ↔
      s.epochSeconds < t.epochSeconds ∨
        (s.epochSeconds = t.epochSeconds ∧
          s.nano < t.nano) := by
  simp only [before, epochSeconds, Bool.or_eq_true,
    Bool.and_eq_true, decide_eq_true_eq, beq_iff_eq]
  omega

/- What lies some nanoseconds away lies later. -/
theorem before_of_nanosUntil
    (hFirst : s.second < 86400)
    (hSecond : t.second < 86400)
    (hPos : 0 < s.nanosUntil t)
    (hPlain : t.nano < 1000000000) : s.before t = true := by
  rw [before_iff hFirst hSecond]
  unfold nanosUntil at hPos
  split at hPos
  · rename_i hLeap
    exact Or.inl hLeap.2
  · omega

/- A second since 1970 is covered if its day is. -/
theorem inRange_ofEpoch_iff {seconds : Int} {nano : Nat} :
    (ofEpoch seconds nano).inRange = true ↔
      Date.firstDay * 86400 ≤ seconds ∧
        seconds ≤ lastSecond := by
  simp only [inRange, Bool.and_eq_true, decide_eq_true_eq]
  simp only [ofEpoch, lastSecond]
  omega

/- The point of a second since 1970 is at that second. -/
@[simp] theorem epochSeconds_ofEpoch
    (seconds : Int)
    (nano : Nat) :
    (ofEpoch seconds nano).epochSeconds = seconds := by
  simp only [ofEpoch, epochSeconds]
  omega

/- A point is the one of its second since 1970. -/
theorem ofEpoch_epochSeconds
    (hSecond : t.second < 86400) :
    ofEpoch t.epochSeconds t.nano = t := by
  rcases t with ⟨day, second, nano⟩
  simp only [ofEpoch, epochSeconds, Timestamp.mk.injEq,
    and_true] at hSecond ⊢
  omega

end Timestamp

end UrlShortener

------------------------------------------------------------
-- Adding Seconds
------------------------------------------------------------

namespace UrlShortener

namespace Timestamp

variable {s t : Timestamp} {seconds : Int}

/- Forwards, the count goes on from the whole second. -/
theorem addSeconds?_of_pos
    (hInstant : s.IsInstant)
    (hPos : 0 < seconds) :
    s.addSeconds? seconds =
      if s.epochSeconds + seconds ≤ lastSecond then
        some (ofEpoch (s.epochSeconds + seconds)
          (s.nano % 1000000000))
      else
        none := by
  have hMoved :
      s.addSeconds? seconds =
        if (ofEpoch (s.epochSeconds + seconds)
            (s.nano % 1000000000)).inRange = true then
          some (ofEpoch (s.epochSeconds + seconds)
            (s.nano % 1000000000))
        else
          none := by
    have hNano := hInstant.nano_lt
    unfold addSeconds?
    by_cases hPlain : s.nano < 1000000000
    · rw [if_pos (Or.inl hPlain), Nat.mod_eq_of_lt hPlain]
    · have hRest : s.nano % 1000000000 = s.nano - 1000000000 := by
        omega
      have hLeap : ¬ (s.nano < 1000000000 ∨ seconds = 0) := by
        omega
      rw [if_neg hLeap, if_pos hPos, hRest]
  have hFirst :
      Date.firstDay * 86400 ≤ s.epochSeconds + seconds := by
    have hDay := hInstant.covered.1
    unfold epochSeconds
    omega
  rw [hMoved]
  simp only [inRange_ofEpoch_iff, hFirst, true_and]

/-
  Adding seconds leads to the one point that lies just as
  many seconds later, other than in a leap second.
-/
theorem addSeconds?_eq_some_iff
    (hInstant : s.IsInstant)
    (hPos : 0 < seconds) :
    s.addSeconds? seconds = some t ↔
      t.IsInstant ∧ t.nano < 1000000000 ∧
        s.nanosUntil t = seconds * 1000000000 := by
  have hNano := hInstant.nano_lt
  rw [addSeconds?_of_pos hInstant hPos]
  constructor
  · intro hAdd
    split at hAdd
    · rename_i hLast
      cases hAdd
      have hFirst := hInstant.covered.1
      refine ⟨⟨?_, ?_, ?_⟩, ?_, ?_⟩
      · simp only [ofEpoch, epochSeconds, lastSecond] at hLast ⊢
        omega
      · simp only [ofEpoch]
        omega
      · simp only [ofEpoch]
        omega
      · simp only [ofEpoch]
        omega
      · unfold nanosUntil
        rw [epochSeconds_ofEpoch]
        simp only [ofEpoch]
        split
        · omega
        · omega
    · cases hAdd
  · rintro ⟨hLater, hPlain, hNanos⟩
    have hSame :
        t.epochSeconds = s.epochSeconds + seconds ∧
          t.nano = s.nano % 1000000000 := by
      unfold nanosUntil at hNanos
      split at hNanos
      · omega
      · omega
    have hLast : s.epochSeconds + seconds ≤ lastSecond := by
      have hDay := hLater.covered.2
      have hSecond := hLater.second_lt
      rw [← hSame.1, epochSeconds, lastSecond]
      omega
    rw [if_pos hLast, ← hSame.1, ← hSame.2,
      ofEpoch_epochSeconds hLater.second_lt]

/- There is none only if it would lie beyond the calendar. -/
theorem addSeconds?_eq_none_iff
    (hInstant : s.IsInstant)
    (hPos : 0 < seconds) :
    s.addSeconds? seconds = none ↔
      lastSecond < s.epochSeconds + seconds := by
  rw [addSeconds?_of_pos hInstant hPos, ite_eq_right_iff,
    ← Int.not_le]
  exact imp_congr_right fun _ => iff_of_false nofun id

/- The point that it leads to lies later. -/
theorem before_of_addSeconds?
    (hInstant : s.IsInstant)
    (hPos : 0 < seconds)
    (hAdd : s.addSeconds? seconds = some t) :
    s.before t = true := by
  rcases (addSeconds?_eq_some_iff hInstant hPos).mp hAdd with
    ⟨hLater, hPlain, hNanos⟩
  exact before_of_nanosUntil hInstant.second_lt
    hLater.second_lt (by omega) hPlain

end Timestamp

end UrlShortener
