import UrlShortener.Settings.Basic
import UrlShortener.Settings.Masking

/-
  This file defines which settings are valid.

  Key definitions include:
    * `SettingsFault`
    * `SettingsFault.message`
    * `Settings.check`
-/

namespace UrlShortener

------------------------------------------------------------
-- Faults
------------------------------------------------------------

/- What is wrong with settings. -/
inductive SettingsFault where
| codeLength (got : Nat)
| maxAttempts (got : Nat)
| expiryHours (got : Nat)
| queueTooSmall (got : Nat)
| queueTooLarge (got : Nat)
| concurrency (got : Nat)
| noStoreTimeout
| noIncrementTimeout
| noHealthTimeout
| logFormat (got : String)
| listenAddress (got : String)
| redisUrl (got : String)
deriving DecidableEq, Repr

namespace SettingsFault

/- A value that is not what it has to be. -/
def got (rule value : String) : String :=
  rule ++ ", got " ++ value

/- A text that is not what it has to be. -/
def gotText (rule value : String) : String :=
  got rule ("'" ++ value ++ "'")

/- The wording of a fault. A password is never shown. -/
def message : SettingsFault → String
| .codeLength n =>
    got "CODE_LENGTH must be between 4 and 32" (toString n)
| .maxAttempts n =>
    got "MAX_GENERATION_ATTEMPTS must be between 1 and 50"
      (toString n)
| .expiryHours n =>
    got
      ("DEFAULT_EXPIRY_HOURS must be between 0 and 876000 "
        ++ "(0 disables)")
      (toString n)
| .queueTooSmall n =>
    got "VISIT_QUEUE_CAPACITY must be at least 100" (toString n)
| .queueTooLarge n =>
    got "VISIT_QUEUE_CAPACITY is too large (max: 1000000)"
      (toString n)
| .concurrency n =>
    got "VISIT_WORKER_CONCURRENCY must be between 1 and 256"
      (toString n)
| .noStoreTimeout => "STORE_TIMEOUT_MS must be greater than 0"
| .noIncrementTimeout =>
    "VISIT_INCREMENT_TIMEOUT_MS must be greater than 0"
| .noHealthTimeout => "HEALTH_TIMEOUT_MS must be greater than 0"
| .logFormat s =>
    gotText "LOG_FORMAT must be 'text' or 'json'" s
| .listenAddress s =>
    gotText "LISTEN must be in format 'host:port'" s
| .redisUrl s =>
    gotText
      "REDIS_URL must start with 'redis://' or 'rediss://'"
      (Masking.mask s)

end SettingsFault

------------------------------------------------------------
-- Rules
------------------------------------------------------------

namespace Settings

/- The most hours of a default expiry. -/
def maxExpiryHours : Nat := 876000

/- The known forms of the log. -/
def isLogFormat (s : String) : Bool :=
  s == "text" || s == "json"

/- A URL of the counting server starts with its scheme. -/
def isRedisUrl (s : String) : Bool :=
  (Text.after? "redis://".toList s.toList).isSome
    || (Text.after? "rediss://".toList s.toList).isSome

/- The rules of settings, in the order they are checked. -/
def rules (s : Settings) : List (Bool × SettingsFault) :=
  [(4 ≤ s.codeLength && s.codeLength ≤ 32,
      .codeLength s.codeLength),
    (1 ≤ s.maxAttempts && s.maxAttempts ≤ 50,
      .maxAttempts s.maxAttempts),
    (s.expiryHours ≤ maxExpiryHours,
      .expiryHours s.expiryHours),
    (100 ≤ s.queueCapacity, .queueTooSmall s.queueCapacity),
    (s.queueCapacity ≤ 1000000, .queueTooLarge s.queueCapacity),
    (1 ≤ s.concurrency && s.concurrency ≤ 256,
      .concurrency s.concurrency),
    (0 < s.storeTimeout, .noStoreTimeout),
    (0 < s.incrementTimeout, .noIncrementTimeout),
    (0 < s.healthTimeout, .noHealthTimeout),
    (isLogFormat s.logFormat, .logFormat s.logFormat),
    (s.listenAddress.toList.contains ':',
      .listenAddress s.listenAddress),
    (s.redisUrl.all isRedisUrl, .redisUrl (s.redisUrl.getD ""))]

/- Check settings; the answer is the first rule broken. -/
def check (s : Settings) : Except SettingsFault Unit :=
  match s.rules.find? fun rule => !rule.1 with
  | some (_, fault) => .error fault
  | none => .ok ()

end Settings

end UrlShortener
