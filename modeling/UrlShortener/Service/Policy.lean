import UrlShortener.Settings.Basic

/-
  This file defines what the settings ask of the making of
  links: their codes, their default expiry and the limit of
  the calls that requests wait for.

  Key definitions include:
    * `Policy`
    * `Policy.ttlOfHours`
    * `Policy.ofSettings`
-/

namespace UrlShortener

------------------------------------------------------------
-- Policies
------------------------------------------------------------

/-
  How links are made. Without a default expiry, in seconds,
  links live forever; the limit of calls is in milliseconds.
-/
structure Policy where
  codeLength : Nat
  maxAttempts : Nat
  defaultTtl : Option Int
  storeTimeout : Nat
deriving DecidableEq, Repr

namespace Policy

/- The usual policy: thirty days. -/
def usual : Policy :=
  { codeLength := 7
    maxAttempts := 5
    defaultTtl := some 2592000
    storeTimeout := 1000 }

/- The longest default expiry, in milliseconds. -/
def maxTtlMillis : Nat := 9223372036854775807

/- The default expiry of hours, none if it is too long. -/
def ttlOfHours (hours : Nat) : Option Int :=
  if hours = 0 ∨ maxTtlMillis < hours * 3600000 then none
  else some (hours * 3600)

/- The policy of settings. -/
def ofSettings (s : Settings) : Policy :=
  { codeLength := s.codeLength
    maxAttempts := s.maxAttempts
    defaultTtl := ttlOfHours s.expiryHours
    storeTimeout := s.storeTimeout }

end Policy

end UrlShortener
