import UrlShortener.Number.Unsigned
import UrlShortener.Settings.Validation
import UrlShortener.Text.Blank
import UrlShortener.Text.Utf8

/-
  This file defines the loading of settings from variables.
  A variable that is not UTF-8 counts as not set, and a
  setting without a variable has its usual value.

  Key definitions include:
    * `Environment`
    * `LoadFault`
    * `Settings.read`
    * `Settings.load`
    * `Settings.print`
-/

namespace UrlShortener

------------------------------------------------------------
-- Variables
------------------------------------------------------------

/- The bytes of the variables that are set. -/
abbrev Environment := String → Option (List UInt8)

namespace Environment

/- The text of a variable. -/
def text? (env : Environment) (name : String) : Option String :=
  (env name).bind Utf8.text?

/- The text of a variable or a usual text. -/
def textOr
    (env : Environment)
    (name usual : String) : String :=
  (env.text? name).getD usual

end Environment

------------------------------------------------------------
-- Faults
------------------------------------------------------------

/- Why settings could not be loaded. -/
inductive LoadFault where
| unreadable (name value : String) (cause : Unsigned.Fault)
| invalid (fault : SettingsFault)
deriving DecidableEq, Repr

namespace LoadFault

/- The wording of a fault. -/
def message : LoadFault → String
| .unreadable name value _ =>
    name ++ " has an invalid value: '" ++ value ++ "'"
| .invalid fault => fault.message

/- The wordings of what caused a fault. -/
def causes : LoadFault → List String
| .unreadable _ _ cause => [cause.message]
| .invalid _ => []

end LoadFault

------------------------------------------------------------
-- Reading
------------------------------------------------------------

namespace Environment

/- Read a number from a variable; blanks around it are free. -/
def number
    (env : Environment)
    (name : String)
    (usual : Nat) : Except LoadFault Nat :=
  match env.text? name with
  | none => .ok usual
  | some value =>
      (Unsigned.read (Text.trim value.toList)).mapError
        (.unreadable name value)

/-
  The URL of the counting server: given as a whole, or made
  from its parts if its host is given.
-/
def redisUrl? (env : Environment) : Option String :=
  match env.text? "REDIS_URL" with
  | some url => some url
  | none =>
      (env.text? "REDIS_HOST").map fun host =>
        let port := env.textOr "REDIS_PORT" "6379"
        let password := env.textOr "REDIS_PASSWORD" ""
        let db := env.textOr "REDIS_DB" "0"
        let credentials :=
          if password.isEmpty then ""
          else ":" ++ password ++ "@"
        "redis://" ++ credentials ++ host ++ ":" ++ port
          ++ "/" ++ db

end Environment

namespace Settings

/-
  Read settings. The first number that cannot be read, in
  this order, is the fault.
-/
def read (env : Environment) : Except LoadFault Settings := do
  let codeLength ← env.number "CODE_LENGTH" usual.codeLength
  let maxAttempts ←
    env.number "MAX_GENERATION_ATTEMPTS" usual.maxAttempts
  let expiryHours ←
    env.number "DEFAULT_EXPIRY_HOURS" usual.expiryHours
  let storeTimeout ←
    env.number "STORE_TIMEOUT_MS" usual.storeTimeout
  let queueCapacity ←
    env.number "VISIT_QUEUE_CAPACITY" usual.queueCapacity
  let concurrency ←
    env.number "VISIT_WORKER_CONCURRENCY" usual.concurrency
  let incrementTimeout ←
    env.number "VISIT_INCREMENT_TIMEOUT_MS"
      usual.incrementTimeout
  let healthTimeout ←
    env.number "HEALTH_TIMEOUT_MS" usual.healthTimeout
  return {
    listenAddress := env.textOr "LISTEN" usual.listenAddress
    logLevel := env.textOr "RUST_LOG" usual.logLevel
    logFormat := env.textOr "LOG_FORMAT" usual.logFormat
    redisUrl := env.redisUrl?
    codeLength, maxAttempts, expiryHours, storeTimeout
    queueCapacity, concurrency, incrementTimeout
    healthTimeout }

/- Read settings and check them. -/
def load (env : Environment) : Except LoadFault Settings := do
  let s ← read env
  s.check.mapError .invalid
  return s

end Settings

------------------------------------------------------------
-- Printing
------------------------------------------------------------

namespace Settings

/- The variables that hold settings. -/
def entries (s : Settings) : List (String × String) :=
  [("LISTEN", s.listenAddress),
    ("RUST_LOG", s.logLevel),
    ("LOG_FORMAT", s.logFormat),
    ("CODE_LENGTH", toString s.codeLength),
    ("MAX_GENERATION_ATTEMPTS", toString s.maxAttempts),
    ("DEFAULT_EXPIRY_HOURS", toString s.expiryHours),
    ("STORE_TIMEOUT_MS", toString s.storeTimeout),
    ("VISIT_QUEUE_CAPACITY", toString s.queueCapacity),
    ("VISIT_WORKER_CONCURRENCY", toString s.concurrency),
    ("VISIT_INCREMENT_TIMEOUT_MS", toString s.incrementTimeout),
    ("HEALTH_TIMEOUT_MS", toString s.healthTimeout)]
    ++ s.redisUrl.toList.map fun url => ("REDIS_URL", url)

/- The environment that holds settings and nothing else. -/
def print (s : Settings) : Environment := fun name =>
  (s.entries.find? fun v => v.1 == name).map fun v =>
    Utf8.bytes v.2

end Settings

end UrlShortener
