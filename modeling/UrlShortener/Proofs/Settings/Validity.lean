import Mathlib.Logic.Basic
import UrlShortener.Proofs.Text.Cuts
import UrlShortener.Settings.Validation

/-
  Valid settings. The check accepts just the settings whose
  values are within their ranges, whose log has a known form,
  whose address has a colon and whose counting server, if
  there is one, is named by a URL of its schemes.

  Key definitions include:
    * `Settings.Valid`

  Main declarations:
    * `Settings.check_eq_ok_iff`
    * `Settings.isRedisUrl_iff`
    * `Settings.check_eq_ok_iff_valid`
-/

------------------------------------------------------------
-- Valid Settings
------------------------------------------------------------

namespace UrlShortener

namespace Settings

/- Settings that keep all the rules. -/
structure Valid (s : Settings) : Prop where
  codeLength : 4 ≤ s.codeLength ∧ s.codeLength ≤ 32
  maxAttempts : 1 ≤ s.maxAttempts ∧ s.maxAttempts ≤ 50
  expiryHours : s.expiryHours ≤ 876000
  queueCapacity :
    100 ≤ s.queueCapacity ∧ s.queueCapacity ≤ 1000000
  concurrency : 1 ≤ s.concurrency ∧ s.concurrency ≤ 256
  storeTimeout : 0 < s.storeTimeout
  incrementTimeout : 0 < s.incrementTimeout
  healthTimeout : 0 < s.healthTimeout
  logFormat : s.logFormat = "text" ∨ s.logFormat = "json"
  listenAddress : ':' ∈ s.listenAddress.toList
  redisUrl :
    ∀ url ∈ s.redisUrl, ∃ rest,
      url = "redis://" ++ rest ∨ url = "rediss://" ++ rest

variable {s : Settings}

/- Settings are valid if they break no rule. -/
theorem check_eq_ok_iff :
    s.check = .ok () ↔ ∀ rule ∈ s.rules, rule.1 = true := by
  have hNone :
      (s.rules.find? fun rule => !rule.1) = none ↔
        ∀ rule ∈ s.rules, rule.1 = true := by
    rw [List.find?_eq_none]
    refine forall₂_congr fun rule _ => ?_
    rw [Bool.not_eq_true', Bool.not_eq_false]
  rw [← hNone]
  unfold check
  cases (s.rules.find? fun rule => !rule.1) with
  | none => simp
  | some broken => simp

/- A text begins with another if something follows it. -/
theorem isSome_after?_iff
    {start text : String} :
    (Text.after? start.toList text.toList).isSome = true ↔
      ∃ rest, text = start ++ rest := by
  simp only [Option.isSome_iff_exists, Text.after?_eq_some_iff]
  constructor
  · rintro ⟨rest, hText⟩
    refine ⟨String.ofList rest, ?_⟩
    apply String.toList_injective
    rw [String.toList_append, String.toList_ofList, hText]
  · rintro ⟨rest, rfl⟩
    exact ⟨rest.toList, String.toList_append⟩

/- A URL of a counting server begins with its scheme. -/
theorem isRedisUrl_iff
    {url : String} :
    isRedisUrl url = true ↔
      ∃ rest,
        url = "redis://" ++ rest ∨
          url = "rediss://" ++ rest := by
  rw [isRedisUrl, Bool.or_eq_true, isSome_after?_iff,
    isSome_after?_iff, ← exists_or]

/- The rules are kept by valid settings, and no others. -/
theorem check_eq_ok_iff_valid :
    s.check = .ok () ↔ s.Valid := by
  have hUrl :
      s.redisUrl.all isRedisUrl = true ↔
        ∀ url ∈ s.redisUrl, ∃ rest,
          url = "redis://" ++ rest ∨
            url = "rediss://" ++ rest := by
    rw [Option.all_eq_true]
    exact forall₂_congr fun url _ => isRedisUrl_iff
  rw [check_eq_ok_iff]
  simp only [rules, List.forall_mem_cons, hUrl, isLogFormat,
    Bool.and_eq_true, Bool.or_eq_true,
    decide_eq_true_eq, beq_iff_eq, List.contains_eq_mem]
  constructor
  · rintro ⟨hLength, hAttempts, hHours, hLeast, hMost,
      hConcurrency, hStore, hIncrement, hHealth, hFormat,
      hAddress, hRedis, _⟩
    exact ⟨hLength, hAttempts, hHours, ⟨hLeast, hMost⟩,
      hConcurrency, hStore, hIncrement, hHealth, hFormat,
      hAddress, hRedis⟩
  · rintro ⟨hLength, hAttempts, hHours, ⟨hLeast, hMost⟩,
      hConcurrency, hStore, hIncrement, hHealth, hFormat,
      hAddress, hRedis⟩
    exact ⟨hLength, hAttempts, hHours, hLeast, hMost,
      hConcurrency, hStore, hIncrement, hHealth, hFormat,
      hAddress, hRedis, nofun⟩

/- Codes of valid settings are neither short nor long. -/
theorem codeLength_of_check
    (hValid : s.check = .ok ()) :
    4 ≤ s.codeLength ∧ s.codeLength ≤ 32 :=
  (check_eq_ok_iff_valid.mp hValid).codeLength

end Settings

end UrlShortener
