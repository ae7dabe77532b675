/-
  This file defines the settings of the service and their
  defaults.

  Key definitions include:
    * `Settings`
    * `Settings.usual`
-/

namespace UrlShortener

------------------------------------------------------------
-- Settings
------------------------------------------------------------

/-
  The settings of the service. Without a URL of a counting
  server, visits are counted in memory. An expiry of zero
  hours means none.
-/
structure Settings where
  listenAddress : String
  logLevel : String
  logFormat : String
  redisUrl : Option String
  codeLength : Nat
  maxAttempts : Nat
  expiryHours : Nat
  storeTimeout : Nat
  queueCapacity : Nat
  concurrency : Nat
  incrementTimeout : Nat
  healthTimeout : Nat
deriving DecidableEq, Repr

namespace Settings

/- The settings without any given. Times are milliseconds. -/
def usual : Settings :=
  { listenAddress := "0.0.0.0:3000"
    logLevel := "info"
    logFormat := "text"
    redisUrl := none
    codeLength := 7
    maxAttempts := 5
    expiryHours := 720
    storeTimeout := 1000
    queueCapacity := 10000
    concurrency := 4
    incrementTimeout := 2000
    healthTimeout := 500 }

end Settings

end UrlShortener
