import UrlShortener.Settings.Basic
import UrlShortener.Settings.Masking

/-
  This file defines the summary of the settings that is
  logged at the start, with the URL of the counting server
  masked.

  Key definitions include:
    * `Settings.notes`
    * `Settings.summary`
-/

namespace UrlShortener

------------------------------------------------------------
-- The summary
------------------------------------------------------------

namespace Settings

/- Where visits are counted. -/
def counterNote (s : Settings) : String :=
  match s.redisUrl with
  | some url => "Redis " ++ Masking.mask url
  | none => "in-memory"

/- When links expire. -/
def expiryNote (s : Settings) : String :=
  if s.expiryHours = 0 then "never"
  else toString s.expiryHours ++ "h"

/- The entries of the summary. -/
def notes (s : Settings) : List String :=
  ["Configuration loaded:",
    "  Listen address: " ++ s.listenAddress,
    "  Visit counter: " ++ s.counterNote,
    "  Log level: " ++ s.logLevel,
    "  Log format: " ++ s.logFormat,
    "  Short codes: length " ++ toString s.codeLength ++ ", "
      ++ toString s.maxAttempts ++ " attempts",
    "  Default expiry: " ++ s.expiryNote,
    "  Visit queue capacity: " ++ toString s.queueCapacity]

/- The lines of the summary. -/
def summary (s : Settings) : List String :=
  s.notes.flatMap fun note =>
    (Text.split '\n' note.toList).map String.ofList

end Settings

end UrlShortener
