import UrlShortener.Proofs.Number.Printed
import UrlShortener.Proofs.Results
import UrlShortener.Proofs.Settings.Validity
import UrlShortener.Proofs.Text.Trimming
import UrlShortener.Proofs.Text.Utf8
import UrlShortener.Settings.Environment

/-
  Settings from variables. A number is a text of digits, with
  a plus in front or not, and blanks around it; a variable
  that holds no text leaves a setting as it usually is. What
  variables give in this way is loaded just if it is valid.
  The first number that cannot be read is the fault, whatever
  the other values are. Settings that are printed into
  variables are loaded from them again.

  Key definitions include:
    * `Environment.Holds`
    * `Environment.IsSpelling`
    * `Environment.GivesUrl`
    * `Environment.Gives`
    * `Environment.FirstUnreadable`

  Main declarations:
    * `Environment.number_eq_ok_iff`
    * `Settings.read_eq_ok_iff`
    * `Settings.read_eq_error_iff`
    * `Settings.loads_what_variables_give`
-/

------------------------------------------------------------
-- Texts Of Variables
------------------------------------------------------------

namespace UrlShortener

namespace Environment

/- A variable is set to the bytes of a text. -/
def Holds (env : Environment) (name value : String) : Prop :=
  env name = some (Utf8.bytes value)

/- A variable that is not set, or not to a text. -/
def Lacks (env : Environment) (name : String) : Prop :=
  ∀ value, ¬ env.Holds name value

/- What a variable gives that may be left out. -/
inductive GivesText
    (env : Environment)
    (name usual : String) : String → Prop where
| unset (hLacks : env.Lacks name) :
    GivesText env name usual usual
| held
    {value : String}
    (hHolds : env.Holds name value) :
    GivesText env name usual value

variable {env : Environment} {name usual value : String}

/- The text of a variable is the one whose bytes it has. -/
theorem text?_eq_some_iff :
    env.text? name = some value ↔ env.Holds name value := by
  rw [text?, Option.bind_eq_some_iff]
  simp only [Utf8.text?_eq_some_iff]
  constructor
  · rintro ⟨bytes, hSet, rfl⟩
    exact hSet
  · exact fun hSet => ⟨_, hSet, rfl⟩

theorem text?_eq_none_iff :
    env.text? name = none ↔ env.Lacks name := by
  simp only [Lacks, ← text?_eq_some_iff]
  exact Option.eq_none_iff_forall_ne_some

/- A variable holds no two texts. -/
theorem Holds.unique
    {other : String}
    (hHolds : env.Holds name value)
    (hOther : env.Holds name other) : other = value := by
  rw [← text?_eq_some_iff] at hHolds hOther
  exact Option.some.inj (hOther.symm.trans hHolds)

/- A text is read as it is given. -/
theorem textOr_eq_iff :
    env.textOr name usual = value ↔
      env.GivesText name usual value := by
  unfold textOr
  cases hText : env.text? name with
  | none =>
      rw [text?_eq_none_iff] at hText
      constructor
      · rintro rfl
        exact .unset hText
      · intro hGives
        cases hGives with
        | unset hLacks => rfl
        | held hHolds => exact absurd hHolds (hText value)
  | some found =>
      rw [text?_eq_some_iff] at hText
      constructor
      · rintro rfl
        exact .held hText
      · intro hGives
        cases hGives with
        | unset hLacks => exact absurd hText (hLacks found)
        | held hHolds => exact hHolds.unique hText

end Environment

end UrlShortener

------------------------------------------------------------
-- Numbers Of Variables
------------------------------------------------------------

namespace UrlShortener

namespace Environment

/- A number with an optional plus, and blanks around it. -/
def IsSpelling (value : String) (n : Nat) : Prop :=
  ∃ before cs after,
    value.toList = before ++ (cs ++ after) ∧
      (∀ c ∈ before, Text.isBlank c = true) ∧
      Unsigned.IsWord cs n ∧
      ∀ c ∈ after, Text.isBlank c = true

/- The number that a variable gives, if it spells one. -/
inductive GivesNumber
    (env : Environment)
    (name : String)
    (usual : Nat) : Nat → Prop where
| unset (hLacks : env.Lacks name) :
    GivesNumber env name usual usual
| held
    {value : String}
    {n : Nat}
    (hHolds : env.Holds name value)
    (hSpelling : IsSpelling value n) :
    GivesNumber env name usual n

/- A variable that holds a text which spells no number. -/
def Unreadable (env : Environment) (name : String) : Prop :=
  ∃ value, env.Holds name value ∧ ∀ n, ¬ IsSpelling value n

variable {env : Environment} {name value : String}
variable {usual n : Nat}

theorem isBlank_of_isWord
    {cs : List Char}
    (hWord : Unsigned.IsWord cs n) :
    ∀ c ∈ cs, Text.isBlank c = false := by
  have hDigits
      {ds : List Char}
      (hNumeral : IsNumeral ds n) :
      ∀ c ∈ ds, Text.isBlank c = false := fun c hMem =>
    Text.isBlank_of_isDigit (hNumeral.digits c hMem)
  cases hWord with
  | plain hNumeral => exact hDigits hNumeral
  | signed hNumeral =>
      exact List.forall_mem_cons.mpr ⟨rfl, hDigits hNumeral⟩

/- Between its blanks, a spelling is read. -/
theorem read_trim_eq_ok_iff :
    Unsigned.read (Text.trim value.toList) = .ok n ↔
      IsSpelling value n := by
  rw [Unsigned.read_eq_ok_iff]
  constructor
  · intro hWord
    rcases Text.exists_trim value.toList with
      ⟨before, after, hValue, hBefore, hAfter⟩
    exact ⟨before, _, after, hValue, hBefore, hWord, hAfter⟩
  · rintro ⟨before, cs, after, hValue, hBefore, hWord, hAfter⟩
    rw [hValue, Text.trim_append hBefore
      (isBlank_of_isWord hWord) hAfter]
    exact hWord

/- A number is read as it is given. -/
theorem number_eq_ok_iff :
    env.number name usual = .ok n ↔
      env.GivesNumber name usual n := by
  unfold number
  cases hText : env.text? name with
  | none =>
      rw [text?_eq_none_iff] at hText
      constructor
      · intro hRead
        cases hRead
        exact .unset hText
      · intro hGives
        cases hGives with
        | unset hLacks => rfl
        | held hHolds => exact absurd hHolds (hText _)
  | some value =>
      rw [text?_eq_some_iff] at hText
      dsimp only
      rw [mapError_eq_ok_iff, read_trim_eq_ok_iff]
      constructor
      · exact fun hSpelling => .held hText hSpelling
      · intro hGives
        cases hGives with
        | unset hLacks => exact absurd hText (hLacks value)
        | held hHolds hSpelling =>
            cases hHolds.unique hText
            exact hSpelling

/- No number is read from a text that spells none. -/
theorem number_eq_error_iff
    {fault : LoadFault} :
    env.number name usual = .error fault ↔
      ∃ value cause, env.Holds name value ∧
        Unsigned.read (Text.trim value.toList) =
          .error cause ∧
        fault = .unreadable name value cause := by
  simp only [← text?_eq_some_iff]
  unfold number
  cases hText : env.text? name with
  | none =>
      refine iff_of_false nofun ?_
      rintro ⟨value, cause, hHolds, _⟩
      cases hHolds
  | some value =>
      dsimp only
      rw [mapError_eq_error_iff]
      constructor
      · rintro ⟨cause, hCause, rfl⟩
        exact ⟨value, cause, rfl, hCause, rfl⟩
      · rintro ⟨held, cause, hHolds, hCause, rfl⟩
        cases hHolds
        exact ⟨cause, hCause, rfl⟩

/- A text that is not read spells no number. -/
theorem read_trim_eq_error_iff :
    (∃ cause,
      Unsigned.read (Text.trim value.toList) =
        .error cause) ↔
      ∀ n, ¬ IsSpelling value n := by
  simp only [← read_trim_eq_ok_iff]
  cases Unsigned.read (Text.trim value.toList) with
  | ok n => exact iff_of_false nofun fun hNone => hNone n rfl
  | error cause => exact iff_of_true ⟨cause, rfl⟩ nofun

/- A variable is readable if some number is read from it. -/
theorem not_unreadable_iff :
    ¬ env.Unreadable name ↔
      ∃ n, env.number name usual = .ok n := by
  cases hNumber : env.number name usual with
  | ok n =>
      refine iff_of_true ?_ ⟨n, rfl⟩
      rintro ⟨value, hHolds, hNone⟩
      rcases read_trim_eq_error_iff.mpr hNone with
        ⟨cause, hCause⟩
      have hFault :
          env.number name usual =
            .error (.unreadable name value cause) :=
        number_eq_error_iff.mpr
          ⟨value, cause, hHolds, hCause, rfl⟩
      rw [hNumber] at hFault
      cases hFault
  | error fault =>
      refine iff_of_false ?_ nofun
      rcases number_eq_error_iff.mp hNumber with
        ⟨value, cause, hHolds, hCause, rfl⟩
      exact fun hReadable =>
        hReadable ⟨value, hHolds,
          read_trim_eq_error_iff.mp ⟨cause, hCause⟩⟩

end Environment

end UrlShortener

------------------------------------------------------------
-- Settings Of Variables
------------------------------------------------------------

namespace UrlShortener

namespace Environment

/- A password in a URL, with its marks; none if it is empty. -/
def credentials (password : String) : String :=
  if password = "" then "" else ":" ++ password ++ "@"

/-
  The URL of the counting server that variables give: as a
  whole, or by its parts if there is a host.
-/
inductive GivesUrl (env : Environment) : Option String → Prop where
| whole
    {url : String}
    (hUrl : env.Holds "REDIS_URL" url) :
    GivesUrl env (some url)
| parts
    {host port password database : String}
    (hUrl : env.Lacks "REDIS_URL")
    (hHost : env.Holds "REDIS_HOST" host)
    (hPort : env.GivesText "REDIS_PORT" "6379" port)
    (hPassword : env.GivesText "REDIS_PASSWORD" "" password)
    (hDatabase : env.GivesText "REDIS_DB" "0" database) :
    GivesUrl env
      (some
        ("redis://" ++ credentials password ++ host ++ ":"
          ++ port ++ "/" ++ database))
| none
    (hUrl : env.Lacks "REDIS_URL")
    (hHost : env.Lacks "REDIS_HOST") :
    GivesUrl env .none

/- The settings that variables give, each by its own. -/
structure Gives (env : Environment) (s : Settings) : Prop where
  listenAddress :
    env.GivesText "LISTEN" "0.0.0.0:3000" s.listenAddress
  logLevel : env.GivesText "RUST_LOG" "info" s.logLevel
  logFormat : env.GivesText "LOG_FORMAT" "text" s.logFormat
  redisUrl : env.GivesUrl s.redisUrl
  codeLength : env.GivesNumber "CODE_LENGTH" 7 s.codeLength
  maxAttempts :
    env.GivesNumber "MAX_GENERATION_ATTEMPTS" 5 s.maxAttempts
  expiryHours :
    env.GivesNumber "DEFAULT_EXPIRY_HOURS" 720 s.expiryHours
  storeTimeout :
    env.GivesNumber "STORE_TIMEOUT_MS" 1000 s.storeTimeout
  queueCapacity :
    env.GivesNumber "VISIT_QUEUE_CAPACITY" 10000
      s.queueCapacity
  concurrency :
    env.GivesNumber "VISIT_WORKER_CONCURRENCY" 4 s.concurrency
  incrementTimeout :
    env.GivesNumber "VISIT_INCREMENT_TIMEOUT_MS" 2000
      s.incrementTimeout
  healthTimeout :
    env.GivesNumber "HEALTH_TIMEOUT_MS" 500 s.healthTimeout

/- The variables with numbers, in their order. -/
def numbers : List String :=
  ["CODE_LENGTH", "MAX_GENERATION_ATTEMPTS",
    "DEFAULT_EXPIRY_HOURS", "STORE_TIMEOUT_MS",
    "VISIT_QUEUE_CAPACITY", "VISIT_WORKER_CONCURRENCY",
    "VISIT_INCREMENT_TIMEOUT_MS", "HEALTH_TIMEOUT_MS"]

/-
  The first of some variables that cannot be read, with its
  text and the reason.
-/
structure FirstUnreadable
    (env : Environment)
    (names : List String)
    (name value : String)
    (cause : Unsigned.Fault) : Prop where
  first :
    ∃ before after, names = before ++ name :: after ∧
      ∀ earlier ∈ before, ¬ env.Unreadable earlier
  holds : env.Holds name value
  unread :
    Unsigned.read (Text.trim value.toList) = .error cause

theorem not_firstUnreadable_nil
    {env : Environment}
    {name value : String}
    {cause : Unsigned.Fault} :
    ¬ env.FirstUnreadable [] name value cause := by
  rintro ⟨⟨before, after, hNames, _⟩, _, _⟩
  cases before with
  | nil => cases hNames
  | cons earlier before => cases hNames

/- It is the first of all, or the first of the others. -/
theorem firstUnreadable_cons_iff
    {env : Environment}
    {names : List String}
    {name value head : String}
    {cause : Unsigned.Fault}
    (usual : Nat) :
    env.FirstUnreadable (head :: names) name value cause ↔
      env.number head usual =
          .error (.unreadable name value cause) ∨
        ∃ n, env.number head usual = .ok n ∧
          env.FirstUnreadable names name value cause := by
  rw [exists_and_right, ← not_unreadable_iff,
    number_eq_error_iff]
  constructor
  · rintro ⟨⟨before, after, hNames, hBefore⟩, hHolds, hUnread⟩
    cases before with
    | nil =>
        cases hNames
        exact .inl ⟨value, cause, hHolds, hUnread, rfl⟩
    | cons earlier before =>
        cases hNames
        have hAll := List.forall_mem_cons.mp hBefore
        exact .inr ⟨hAll.1,
          ⟨before, after, rfl, hAll.2⟩, hHolds, hUnread⟩
  · rintro (⟨held, why, hHolds, hUnread, hSame⟩ |
      ⟨hHead, ⟨before, after, hNames, hBefore⟩, hHolds, hUnread⟩)
    · cases hSame
      exact ⟨⟨[], names, rfl, nofun⟩, hHolds, hUnread⟩
    · refine ⟨⟨head :: before, after, ?_, ?_⟩, hHolds, hUnread⟩
      · rw [hNames]
        rfl
      · exact List.forall_mem_cons.mpr ⟨hHead, hBefore⟩

variable {env : Environment} {url : Option String}

theorem credentials_eq (password : String) :
    (if password.isEmpty = true then ""
      else ":" ++ password ++ "@") =
      credentials password := by
  unfold credentials
  simp only [String.isEmpty_iff]

/- The URL is found as it is given. -/
theorem redisUrl?_eq_iff :
    env.redisUrl? = url ↔ env.GivesUrl url := by
  unfold redisUrl?
  simp only [credentials_eq]
  cases hUrl : env.text? "REDIS_URL" with
  | some found =>
      rw [text?_eq_some_iff] at hUrl
      constructor
      · rintro rfl
        exact .whole hUrl
      · intro hGives
        cases hGives with
        | whole hOther =>
            exact congrArg some (hOther.unique hUrl)
        | parts hLacks => exact absurd hUrl (hLacks found)
        | none hLacks => exact absurd hUrl (hLacks found)
  | none =>
      rw [text?_eq_none_iff] at hUrl
      cases hHost : env.text? "REDIS_HOST" with
      | none =>
          rw [text?_eq_none_iff] at hHost
          constructor
          · rintro rfl
            exact .none hUrl hHost
          · intro hGives
            cases hGives with
            | whole hHolds => exact absurd hHolds (hUrl _)
            | parts _ hHolds => exact absurd hHolds (hHost _)
            | none => rfl
      | some host =>
          rw [text?_eq_some_iff] at hHost
          constructor
          · rintro rfl
            exact .parts hUrl hHost (textOr_eq_iff.mp rfl)
              (textOr_eq_iff.mp rfl) (textOr_eq_iff.mp rfl)
          · intro hGives
            cases hGives with
            | whole hHolds => exact absurd hHolds (hUrl _)
            | parts _ hOther hPort hPassword hDatabase =>
                cases hHost.unique hOther
                rw [textOr_eq_iff.mpr hPort,
                  textOr_eq_iff.mpr hPassword,
                  textOr_eq_iff.mpr hDatabase]
                rfl
            | none _ hLacks => exact absurd hHost (hLacks host)

end Environment

namespace Settings

variable {env : Environment} {s : Settings}

/- Settings are read just as variables give them. -/
theorem read_eq_ok_iff :
    read env = .ok s ↔ env.Gives s := by
  unfold read
  simp only [bind_eq_ok_iff, Environment.number_eq_ok_iff]
  constructor
  · rintro ⟨_, hLength, _, hAttempts, _, hHours, _, hStore,
      _, hQueue, _, hConcurrency, _, hIncrement, _, hHealth,
      hSame⟩
    cases hSame
    exact {
      listenAddress := Environment.textOr_eq_iff.mp rfl
      logLevel := Environment.textOr_eq_iff.mp rfl
      logFormat := Environment.textOr_eq_iff.mp rfl
      redisUrl := Environment.redisUrl?_eq_iff.mp rfl
      codeLength := hLength
      maxAttempts := hAttempts
      expiryHours := hHours
      storeTimeout := hStore
      queueCapacity := hQueue
      concurrency := hConcurrency
      incrementTimeout := hIncrement
      healthTimeout := hHealth }
  · intro hGives
    refine ⟨_, hGives.codeLength, _, hGives.maxAttempts, _,
      hGives.expiryHours, _, hGives.storeTimeout, _,
      hGives.queueCapacity, _, hGives.concurrency, _,
      hGives.incrementTimeout, _, hGives.healthTimeout, ?_⟩
    have hText
        {name usual value : String}
        (hGiven : env.GivesText name usual value) :
        env.textOr name usual = value :=
      Environment.textOr_eq_iff.mpr hGiven
    rw [Environment.redisUrl?_eq_iff.mpr hGives.redisUrl]
    change Except.ok _ = Except.ok s
    rw [Except.ok.injEq]
    cases s
    rw [Settings.mk.injEq]
    exact ⟨hText hGives.listenAddress, hText hGives.logLevel,
      hText hGives.logFormat, rfl, rfl, rfl, rfl, rfl, rfl,
      rfl, rfl, rfl⟩

/- Settings are given only by numbers that can be read. -/
theorem readable_of_gives
    (hGives : env.Gives s) :
    ∀ name ∈ Environment.numbers, ¬ env.Unreadable name := by
  have hReadable
      {name : String}
      {usual n : Nat}
      (hGiven : env.GivesNumber name usual n) :
      ¬ env.Unreadable name :=
    Environment.not_unreadable_iff.mpr
      ⟨n, Environment.number_eq_ok_iff.mpr hGiven⟩
  simp only [Environment.numbers, List.forall_mem_cons]
  exact ⟨hReadable hGives.codeLength,
    hReadable hGives.maxAttempts, hReadable hGives.expiryHours,
    hReadable hGives.storeTimeout,
    hReadable hGives.queueCapacity,
    hReadable hGives.concurrency,
    hReadable hGives.incrementTimeout,
    hReadable hGives.healthTimeout, nofun⟩

/- Reading ends at the first number that cannot be read. -/
theorem read_eq_error_iff
    {name value : String}
    {cause : Unsigned.Fault} :
    read env = .error (.unreadable name value cause) ↔
      env.FirstUnreadable Environment.numbers name value
        cause := by
  unfold read Environment.numbers
  rw [Environment.firstUnreadable_cons_iff usual.codeLength,
    Environment.firstUnreadable_cons_iff usual.maxAttempts,
    Environment.firstUnreadable_cons_iff usual.expiryHours,
    Environment.firstUnreadable_cons_iff usual.storeTimeout,
    Environment.firstUnreadable_cons_iff usual.queueCapacity,
    Environment.firstUnreadable_cons_iff usual.concurrency,
    Environment.firstUnreadable_cons_iff
      usual.incrementTimeout,
    Environment.firstUnreadable_cons_iff usual.healthTimeout]
  simp only [bind_eq_error_iff, pure, Except.pure, reduceCtorEq,
    Environment.not_firstUnreadable_nil]

/- Nothing else goes wrong with reading. -/
theorem read_ne_invalid
    (fault : SettingsFault) :
    read env ≠ .error (.invalid fault) := by
  have hNumber
      (name : String)
      (usual : Nat) :
      env.number name usual ≠ .error (.invalid fault) := by
    intro hFault
    rcases Environment.number_eq_error_iff.mp hFault with
      ⟨value, cause, _, _, hSame⟩
    cases hSame
  unfold read
  simp only [ne_eq, bind_eq_error_iff, hNumber, pure,
    Except.pure, reduceCtorEq, and_false, exists_const,
    or_false, not_false_eq_true]

/- What is loaded is read and valid. -/
theorem load_eq_ok_iff :
    load env = .ok s ↔ env.Gives s ∧ s.Valid := by
  rw [← read_eq_ok_iff, ← check_eq_ok_iff_valid, load]
  simp only [bind_eq_ok_iff, mapError_eq_ok_iff]
  constructor
  · rintro ⟨found, hRead, _, hCheck, hSame⟩
    cases hSame
    exact ⟨hRead, hCheck⟩
  · rintro ⟨hRead, hCheck⟩
    exact ⟨s, hRead, (), hCheck, rfl⟩

/- It fails where the reading does, or else the check. -/
theorem load_eq_error_iff
    {fault : LoadFault} :
    load env = .error fault ↔
      read env = .error fault ∨
        ∃ s, read env = .ok s ∧
          ∃ broken, s.check = .error broken ∧
            .invalid broken = fault := by
  rw [load]
  simp only [bind_eq_error_iff, mapError_eq_error_iff, pure,
    Except.pure, reduceCtorEq, and_false, exists_const,
    or_false]

end Settings

end UrlShortener

------------------------------------------------------------
-- Printed Settings
------------------------------------------------------------

namespace UrlShortener

/- With names that differ, an entry is found by its name. -/
theorem find?_entry
    {entries : List (String × String)}
    {name value : String}
    (hNames : (entries.map Prod.fst).Nodup)
    (hMem : (name, value) ∈ entries) :
    (entries.find? fun v => v.1 == name) =
      some (name, value) := by
  induction entries with
  | nil => cases hMem
  | cons entry entries ih =>
      rw [List.map_cons, List.nodup_cons] at hNames
      rcases List.mem_cons.mp hMem with rfl | hRest
      · exact List.find?_cons_of_pos (beq_self_eq_true name)
      · have hOther : ¬ (entry.1 == name) = true := by
          rw [beq_iff_eq]
          rintro rfl
          exact hNames.1 (List.mem_map.mpr ⟨_, hRest, rfl⟩)
        rw [List.find?_cons, Bool.eq_false_iff.mpr hOther]
        exact ih hNames.2 hRest

namespace Settings

/- Settings whose times have 64 bits, as all other numbers do. -/
structure FitsWords (s : Settings) : Prop where
  storeTimeout : s.storeTimeout ≤ Unsigned.maxWord
  incrementTimeout : s.incrementTimeout ≤ Unsigned.maxWord
  healthTimeout : s.healthTimeout ≤ Unsigned.maxWord

/- The variables that settings are printed into. -/
def names (s : Settings) : List String :=
  s.entries.map Prod.fst

variable {s : Settings} {name value : String}

theorem names_eq :
    s.names =
      ["LISTEN", "RUST_LOG", "LOG_FORMAT"]
        ++ Environment.numbers
        ++ s.redisUrl.toList.map fun _ => "REDIS_URL" := by
  unfold names entries
  rw [List.map_append, List.map_map]
  rfl

theorem print_of_mem
    (hMem : (name, value) ∈ s.entries) :
    s.print name = some (Utf8.bytes value) := by
  have hNames : s.names.Nodup := by
    have hFixed :
        (["LISTEN", "RUST_LOG", "LOG_FORMAT"]
          ++ Environment.numbers ++ ["REDIS_URL"]).Nodup := by
      decide
    rw [names_eq]
    cases s.redisUrl with
    | none => exact (List.nodup_append.mp hFixed).1
    | some url => exact hFixed
  rw [print, find?_entry hNames hMem]
  rfl

theorem print_of_not_mem
    (hNone : name ∉ s.names) : s.print name = none := by
  have hFind :
      (s.entries.find? fun v => v.1 == name) = none := by
    rw [List.find?_eq_none]
    intro v hMem hName
    rw [beq_iff_eq] at hName
    exact hNone (hName ▸ List.mem_map_of_mem hMem)
  rw [print, hFind]
  rfl

end Settings

namespace Environment

/- The variables that are read, but for the parts of a URL. -/
def namesRead : List String :=
  ["LISTEN", "RUST_LOG", "LOG_FORMAT", "REDIS_URL",
    "REDIS_HOST"] ++ numbers

/- An environment that agrees with printed settings on them. -/
def Shows (env : Environment) (s : Settings) : Prop :=
  ∀ name ∈ namesRead, env name = s.print name

variable {env : Environment} {s : Settings}
variable {name value : String}

/- Settings are printed into variables that are read. -/
theorem names_subset : s.names ⊆ namesRead := by
  rw [Settings.names_eq]
  cases s.redisUrl with
  | none => decide
  | some url =>
      have hFixed :
          ["LISTEN", "RUST_LOG", "LOG_FORMAT"] ++ numbers
              ++ ["REDIS_URL"] ⊆ namesRead := by
        decide
      exact hFixed

theorem Shows.holds
    (hShows : env.Shows s)
    (hEntry : (name, value) ∈ s.entries) :
    env.Holds name value :=
  (hShows name
    (names_subset (List.mem_map.mpr ⟨_, hEntry, rfl⟩))).trans
    (Settings.print_of_mem hEntry)

theorem Shows.lacks
    (hShows : env.Shows s)
    (hNone : name ∉ s.names)
    (hRead : name ∈ namesRead) : env.Lacks name := by
  intro value hHolds
  unfold Holds at hHolds
  rw [hShows name hRead, Settings.print_of_not_mem hNone]
    at hHolds
  cases hHolds

theorem Shows.givesText
    {usual : String}
    (hShows : env.Shows s)
    (hEntry : (name, value) ∈ s.entries) :
    env.GivesText name usual value :=
  .held (hShows.holds hEntry)

/- The text of a number spells it. -/
theorem isSpelling_toString
    {n : Nat}
    (hFits : n ≤ Unsigned.maxWord) :
    IsSpelling (toString n) n :=
  ⟨[], (toString n).toList, [], by simp, nofun,
    .plain (isNumeral_toString n) hFits, nofun⟩

theorem Shows.givesNumber
    {n usual : Nat}
    (hShows : env.Shows s)
    (hEntry : (name, toString n) ∈ s.entries)
    (hFits : n ≤ Unsigned.maxWord) :
    env.GivesNumber name usual n :=
  .held (hShows.holds hEntry) (isSpelling_toString hFits)

theorem Shows.givesUrl
    (hShows : env.Shows s) : env.GivesUrl s.redisUrl := by
  cases hUrl : s.redisUrl with
  | none =>
      have hNames :
          "REDIS_URL" ∉ s.names ∧ "REDIS_HOST" ∉ s.names := by
        rw [Settings.names_eq, hUrl]
        decide
      exact .none (hShows.lacks hNames.1 (by decide))
        (hShows.lacks hNames.2 (by decide))
  | some url =>
      have hEntry : ("REDIS_URL", url) ∈ s.entries := by
        simp [Settings.entries, hUrl]
      exact .whole (hShows.holds hEntry)

/- What shows valid settings gives them. -/
theorem Shows.gives
    (hShows : env.Shows s)
    (hValid : s.Valid)
    (hFits : s.FitsWords) : env.Gives s := by
  have hSmall {n : Nat} (hLe : n ≤ 1000000) :
      n ≤ Unsigned.maxWord :=
    Nat.le_trans hLe (by decide)
  have hLength := hValid.codeLength
  have hAttempts := hValid.maxAttempts
  have hHours := hValid.expiryHours
  have hQueue := hValid.queueCapacity
  have hConcurrency := hValid.concurrency
  constructor
  case redisUrl => exact hShows.givesUrl
  case listenAddress =>
    exact hShows.givesText (by simp [Settings.entries])
  case logLevel =>
    exact hShows.givesText (by simp [Settings.entries])
  case logFormat =>
    exact hShows.givesText (by simp [Settings.entries])
  case codeLength =>
    exact hShows.givesNumber (by simp [Settings.entries])
      (hSmall (by omega))
  case maxAttempts =>
    exact hShows.givesNumber (by simp [Settings.entries])
      (hSmall (by omega))
  case expiryHours =>
    exact hShows.givesNumber (by simp [Settings.entries])
      (hSmall (by omega))
  case queueCapacity =>
    exact hShows.givesNumber (by simp [Settings.entries])
      (hSmall hQueue.2)
  case concurrency =>
    exact hShows.givesNumber (by simp [Settings.entries])
      (hSmall (by omega))
  case storeTimeout =>
    exact hShows.givesNumber (by simp [Settings.entries])
      hFits.storeTimeout
  case incrementTimeout =>
    exact hShows.givesNumber (by simp [Settings.entries])
      hFits.incrementTimeout
  case healthTimeout =>
    exact hShows.givesNumber (by simp [Settings.entries])
      hFits.healthTimeout

end Environment

end UrlShortener

------------------------------------------------------------
-- The Law Of Loading
------------------------------------------------------------

namespace UrlShortener

namespace Settings

/- A number that cannot be read is a fault before all others. -/
theorem load_of_unreadable
    {env : Environment}
    (hSome :
      ∃ name ∈ Environment.numbers, env.Unreadable name) :
    ∃ name value cause,
      env.FirstUnreadable Environment.numbers name value
          cause ∧
        load env = .error (.unreadable name value cause) := by
  cases hRead : read env with
  | ok s =>
      rcases hSome with ⟨name, hMem, hUnreadable⟩
      exact absurd hUnreadable
        (readable_of_gives (read_eq_ok_iff.mp hRead) name hMem)
  | error fault =>
      cases fault with
      | unreadable name value cause =>
          exact ⟨name, value, cause,
            read_eq_error_iff.mp hRead,
            load_eq_error_iff.mpr (.inl hRead)⟩
      | invalid broken => exact absurd hRead (read_ne_invalid _)

/-
  Settings are loaded just if the variables give them and
  they are valid. If a number cannot be read, the first one
  is the fault, whatever else is wrong; otherwise the fault
  is that of the check. Valid settings that are printed into
  the variables are loaded from them.
-/
theorem loads_what_variables_give :
    (∀ env s, load env = .ok s ↔ env.Gives s ∧ s.Valid) ∧
    (∀ env name value cause,
      load env = .error (.unreadable name value cause) ↔
        env.FirstUnreadable Environment.numbers name value
          cause) ∧
    (∀ env : Environment,
      (∃ name ∈ Environment.numbers, env.Unreadable name) →
        ∃ name value cause,
          env.FirstUnreadable Environment.numbers name value
              cause ∧
            load env =
              .error (.unreadable name value cause)) ∧
    (∀ env fault, load env = .error (.invalid fault) ↔
      ∃ s, env.Gives s ∧ s.check = .error fault) ∧
    (∀ (env : Environment) s,
      s.Valid → s.FitsWords → env.Shows s →
        load env = .ok s) := by
  refine ⟨fun _ _ => load_eq_ok_iff, ?_,
    fun _ => load_of_unreadable, ?_, ?_⟩
  · intro env name value cause
    rw [load_eq_error_iff, read_eq_error_iff]
    constructor
    · rintro (hFirst | ⟨s, _, broken, _, hSame⟩)
      · exact hFirst
      · cases hSame
    · exact .inl
  · intro env fault
    rw [load_eq_error_iff]
    constructor
    · rintro (hRead | ⟨s, hRead, broken, hCheck, hSame⟩)
      · exact absurd hRead (read_ne_invalid fault)
      · cases hSame
        exact ⟨s, read_eq_ok_iff.mp hRead, hCheck⟩
    · rintro ⟨s, hGives, hCheck⟩
      exact .inr ⟨s, read_eq_ok_iff.mpr hGives, fault, hCheck,
        rfl⟩
  · intro env s hValid hFits hShows
    exact load_eq_ok_iff.mpr
      ⟨hShows.gives hValid hFits, hValid⟩

/- A number with a plus, a zero in front and blanks around. -/
example :
    load (fun name =>
        if name = "CODE_LENGTH" then
          some (Utf8.bytes " +012\n")
        else
          none) =
      .ok { usual with codeLength := 12 } := by
  decide

/- Settings of which none is as usual. -/
def sample : Settings :=
  { listenAddress := "127.0.0.1:8080"
    logLevel := "debug"
    logFormat := "json"
    redisUrl := some "redis://:word@cache:6380/2"
    codeLength := 12
    maxAttempts := 50
    expiryHours := 0
    storeTimeout := 250
    queueCapacity := 1000000
    concurrency := 256
    incrementTimeout := 750
    healthTimeout := 18446744073709551615 }

theorem sample_settings_are_loaded_again :
    sample.Valid ∧ sample.FitsWords ∧
      sample.print.Shows sample ∧
      load sample.print = .ok sample := by
  have hValid : sample.Valid :=
    check_eq_ok_iff_valid.mp (by decide)
  have hFits : sample.FitsWords :=
    ⟨by decide, by decide, by decide⟩
  have hShows : Environment.Shows sample.print sample :=
    fun _ _ => rfl
  exact ⟨hValid, hFits, hShows,
    loads_what_variables_give.2.2.2.2 sample.print sample hValid
      hFits hShows⟩

end Settings

end UrlShortener
