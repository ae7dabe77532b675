import UrlShortener.Proofs.Text.Cuts
import UrlShortener.Settings.Environment
import UrlShortener.Settings.Summary

/-
  What the summary of the settings shows of the password of
  the counting server. A password without a colon and an at
  sign is masked as a whole. Any other is masked in part:
  what stands before its last colon in front of its first at
  sign, and what stands behind that at sign, can be read.

  Key definitions include:
    * `Masking.shownBefore`
    * `Masking.shownAfter`
    * `Masking.shown`
    * `Environment.SameButPassword`
    * `Environment.GivesParts`

  Main declarations:
    * `Masking.mask_credentials`
    * `Masking.mask_eq_iff`
    * `Settings.summary_eq_iff`
    * `Settings.summaries_tell_what_is_shown`
    * `Settings.signs_show_in_summaries`
-/

------------------------------------------------------------
-- What A Masked URL Shows
------------------------------------------------------------

namespace UrlShortener

namespace Masking

/- The part of a password in front of its first at sign. -/
def head (password : List Char) : List Char :=
  password.takeWhile (· != '@')

/-
  What stands of a password before the stars: all up to its
  last colon, if it has one before its first at sign.
-/
def shownBefore (password : List Char) : List Char :=
  match Text.cutAtLast? ':' (head password) with
  | none => []
  | some (front, _) => ':' :: front

/-
  What stands of a password after the stars: all behind its
  first at sign.
-/
def shownAfter (password : List Char) : List Char :=
  match Text.cutAtFirst? '@' password with
  | none => []
  | some (_, back) => back ++ ['@']

/- What a masked URL shows of a password. -/
def shown (password : String) : List Char × List Char :=
  (shownBefore password.toList, shownAfter password.toList)

theorem at_not_mem_head
    (password : List Char) : '@' ∉ head password := by
  intro hMem
  have hPass := List.mem_takeWhile_imp hMem
  rw [bne_self_eq_false] at hPass
  cases hPass

/- A password with an at sign shows what is behind it. -/
theorem shownAfter_cases (password : List Char) :
    ('@' ∉ password ∧ head password = password ∧
      shownAfter password = []) ∨
    ∃ back,
      password = head password ++ '@' :: back ∧
        shownAfter password = back ++ ['@'] := by
  unfold head shownAfter
  by_cases hSign : '@' ∈ password
  · rcases List.eq_append_cons_of_mem hSign with
      ⟨front, back, rfl, hFront⟩
    refine .inr ⟨back, ?_, ?_⟩
    · rw [Text.takeWhile_append hFront]
    · rw [Text.cutAtFirst?_append hFront]
  · refine .inl ⟨hSign, ?_, ?_⟩
    · rw [List.takeWhile_eq_self_iff]
      intro c hMem
      exact bne_iff_ne.mpr (ne_of_mem_of_not_mem hMem hSign)
    · rw [Text.cutAtFirst?_of_not_mem hSign]

/- A head with a colon shows what is before its last one. -/
theorem shownBefore_cases (password : List Char) :
    (':' ∉ head password ∧ shownBefore password = []) ∨
    ∃ kept hidden,
      head password = kept ++ ':' :: hidden ∧
        ':' ∉ hidden ∧ shownBefore password = ':' :: kept := by
  unfold shownBefore
  by_cases hColon : ':' ∈ head password
  · rcases List.eq_append_cons_of_mem
        (List.mem_reverse.mpr hColon) with
      ⟨hidden, kept, hParts, hHidden⟩
    have hHead :
        head password = kept.reverse ++ ':' :: hidden.reverse := by
      rw [← List.reverse_reverse (head password), hParts,
        List.reverse_append, List.reverse_cons,
        List.append_assoc]
      rfl
    have hLast := mt List.mem_reverse.mp hHidden
    refine .inr ⟨kept.reverse, hidden.reverse, hHead, hLast, ?_⟩
    rw [hHead, Text.cutAtLast?_append _ hLast]
  · refine .inl ⟨hColon, ?_⟩
    rw [Text.cutAtLast?_of_not_mem hColon]

/-
  The first at sign from a password on is its own, if it has
  one, and else the one that ends it.
-/
theorem password_append
    (password host : List Char) :
    password ++ '@' :: host =
      head password ++ '@' :: (shownAfter password ++ host) := by
  rcases shownAfter_cases password with
    ⟨_, hHead, hAfter⟩ | ⟨back, hParts, hAfter⟩
  · rw [hHead, hAfter]
    rfl
  · calc
      password ++ '@' :: host =
          (head password ++ '@' :: back) ++ '@' :: host :=
        congrArg (· ++ '@' :: host) hParts
      _ = head password ++
            '@' :: (shownAfter password ++ host) := by
        rw [hAfter, List.append_assoc, List.append_assoc]
        rfl

/- What stands between the colon and the stars is shown. -/
theorem cutAtLast?_credentials
    (user password : List Char) :
    ∃ hidden,
      Text.cutAtLast? ':' (user ++ ':' :: head password) =
        some (user ++ shownBefore password, hidden) := by
  rcases shownBefore_cases password with
    ⟨hColon, hBefore⟩ | ⟨kept, hidden, hHead, hLast, hBefore⟩
  · refine ⟨head password, ?_⟩
    rw [hBefore, List.append_nil]
    exact Text.cutAtLast?_append user hColon
  · refine ⟨hidden, ?_⟩
    rw [hHead, hBefore, ← List.cons_append,
      ← List.append_assoc]
    exact Text.cutAtLast?_append (user ++ ':' :: kept) hLast

/-
  A URL with credentials is masked between the parts of the
  password that it shows, whatever its host.
-/
theorem maskChars_credentials
    {scheme user : List Char}
    (hScheme : ':' ∉ scheme)
    (hUser : '@' ∉ user)
    (password host : List Char) :
    maskChars
        (scheme ++ "://".toList ++
          (user ++ ':' :: (password ++ '@' :: host))) =
      scheme ++ "://".toList ++ (user ++ shownBefore password)
        ++ stars ++ (shownAfter password ++ host) := by
  have hStart :
      Text.cutAt? "://".toList
          (scheme ++ "://".toList ++
            (user ++ ':' :: (password ++ '@' :: host))) =
        some (scheme,
          user ++ ':' :: (password ++ '@' :: host)) := by
    rw [List.append_assoc]
    exact Text.cutAt?_append hScheme "//".toList _
  rcases cutAtLast?_credentials user password with
    ⟨hidden, hLast⟩
  have hFirst :
      Text.cutAtFirst? '@'
          (user ++ ':' :: (password ++ '@' :: host)) =
        some (user ++ ':' :: head password,
          shownAfter password ++ host) := by
    rw [password_append, ← List.cons_append,
      ← List.append_assoc]
    apply Text.cutAtFirst?_append
    rw [List.mem_append, List.mem_cons]
    rintro (hMem | hColon | hMem)
    · exact hUser hMem
    · cases hColon
    · exact at_not_mem_head password hMem
  unfold maskChars
  rw [hStart]
  dsimp only
  rw [hFirst]
  dsimp only
  rw [hLast]

theorem at_not_mem_shownBefore
    (password : List Char) : '@' ∉ shownBefore password := by
  rcases shownBefore_cases password with
    ⟨_, hBefore⟩ | ⟨kept, hidden, hHead, _, hBefore⟩
  · rw [hBefore]
    exact List.not_mem_nil
  · rw [hBefore, List.mem_cons]
    rintro (hColon | hMem)
    · cases hColon
    · apply at_not_mem_head password
      rw [hHead]
      exact List.mem_append_left _ hMem

/- A password shows nothing just when it has no sign. -/
theorem shown_eq_nil_iff {password : String} :
    shown password = ([], []) ↔
      ':' ∉ password.toList ∧ '@' ∉ password.toList := by
  unfold shown
  rw [Prod.mk.injEq]
  rcases shownAfter_cases password.toList with
    ⟨hNone, hHead, hAfter⟩ | ⟨back, hParts, hAfter⟩
  · rw [hAfter]
    rcases shownBefore_cases password.toList with
      ⟨hColon, hBefore⟩ | ⟨kept, hidden, hKept, _, hBefore⟩
    · rw [hHead] at hColon
      rw [hBefore]
      exact ⟨fun _ => ⟨hColon, hNone⟩, fun _ => ⟨rfl, rfl⟩⟩
    · rw [hHead] at hKept
      rw [hBefore, hKept]
      simp
  · rw [hAfter, hParts]
    simp

/-
  A masked URL tells what is shown of the password: its
  first at sign is that of the stars.
-/
theorem shown_eq_of_masked
    (front host : List Char)
    {password other : List Char}
    (hSame :
      front ++ shownBefore password ++ stars
          ++ (shownAfter password ++ host) =
        front ++ shownBefore other ++ stars
          ++ (shownAfter other ++ host)) :
    shownBefore password = shownBefore other ∧
      shownAfter password = shownAfter other := by
  have hCut (p : List Char) :
      Text.cutAtFirst? '@'
          (shownBefore p ++ stars ++ (shownAfter p ++ host)) =
        some (shownBefore p ++ ":***".toList,
          shownAfter p ++ host) := by
    have hStars :
        shownBefore p ++ stars ++ (shownAfter p ++ host) =
          (shownBefore p ++ ":***".toList) ++
            '@' :: (shownAfter p ++ host) := by
      rw [List.append_assoc, List.append_assoc]
      rfl
    rw [hStars]
    apply Text.cutAtFirst?_append
    rw [List.mem_append]
    rintro (hMem | hMem)
    · exact at_not_mem_shownBefore p hMem
    · revert hMem
      decide
  have hRest :
      shownBefore password ++ stars
          ++ (shownAfter password ++ host) =
        shownBefore other ++ stars
          ++ (shownAfter other ++ host) := by
    simp only [List.append_assoc] at hSame ⊢
    exact List.append_cancel_left hSame
  have hParts := congrArg (Text.cutAtFirst? '@') hRest
  rw [hCut, hCut, Option.some.injEq, Prod.mk.injEq] at hParts
  exact ⟨List.append_cancel_right hParts.1,
    List.append_cancel_right hParts.2⟩

end Masking

end UrlShortener

namespace UrlShortener

namespace Masking

variable {scheme user : String}

/- The law of masked URLs, for strings. -/
theorem mask_credentials
    (hScheme : ':' ∉ scheme.toList)
    (hUser : '@' ∉ user.toList)
    (password host : String) :
    mask (scheme ++ "://" ++ user ++ ":" ++ password ++ "@"
        ++ host) =
      scheme ++ "://" ++ user
        ++ String.ofList (shown password).1 ++ ":***@"
        ++ String.ofList (shown password).2 ++ host := by
  apply String.toList_injective
  have hChars :=
    maskChars_credentials hScheme hUser password.toList
      host.toList
  have hUrl :
      (scheme ++ "://" ++ user ++ ":" ++ password ++ "@"
          ++ host).toList =
        scheme.toList ++ "://".toList ++
          (user.toList ++ ':' ::
            (password.toList ++ '@' :: host.toList)) := by
    simp only [String.toList_append, List.append_assoc]
    rfl
  unfold mask
  rw [hUrl, hChars]
  simp only [String.toList_append, String.toList_ofList,
    List.append_assoc]
  rfl

/- Masked URLs are told apart by what is shown. -/
theorem mask_eq_iff
    (hScheme : ':' ∉ scheme.toList)
    (hUser : '@' ∉ user.toList)
    {password other host : String} :
    mask (scheme ++ "://" ++ user ++ ":" ++ password ++ "@"
        ++ host) =
      mask (scheme ++ "://" ++ user ++ ":" ++ other ++ "@"
        ++ host) ↔
      shown password = shown other := by
  rw [mask_credentials hScheme hUser,
    mask_credentials hScheme hUser]
  constructor
  · intro hSame
    have hChars := congrArg String.toList hSame
    simp only [String.toList_append, String.toList_ofList]
      at hChars
    have hParts :
        shownBefore password.toList = shownBefore other.toList ∧
          shownAfter password.toList =
            shownAfter other.toList := by
      apply shown_eq_of_masked
        (scheme.toList ++ "://".toList ++ user.toList)
        host.toList
      rw [← List.append_assoc, ← List.append_assoc]
      exact hChars
    exact Prod.ext hParts.1 hParts.2
  · intro hSame
    rw [hSame]

/- A password is masked as a whole just when it has no sign. -/
theorem mask_eq_stars_iff
    (hScheme : ':' ∉ scheme.toList)
    (hUser : '@' ∉ user.toList)
    {password host : String} :
    mask (scheme ++ "://" ++ user ++ ":" ++ password ++ "@"
        ++ host) =
      scheme ++ "://" ++ user ++ ":***@" ++ host ↔
      ':' ∉ password.toList ∧ '@' ∉ password.toList := by
  have hStars :
      scheme ++ "://" ++ user ++ ":***@" ++ host =
        mask (scheme ++ "://" ++ user ++ ":" ++ "" ++ "@"
          ++ host) := by
    have hEmpty : shown "" = ([], []) := rfl
    rw [mask_credentials hScheme hUser, hEmpty,
      String.ofList_nil, String.append_empty,
      String.append_empty]
  rw [hStars, mask_eq_iff hScheme hUser, ← shown_eq_nil_iff]
  rfl

end Masking

end UrlShortener

------------------------------------------------------------
-- What A Summary Shows
------------------------------------------------------------

namespace UrlShortener

namespace Environment

/- Two environments that differ in the password at most. -/
def SameButPassword (env other : Environment) : Prop :=
  ∀ name, name ≠ "REDIS_PASSWORD" → env name = other name

/- Whether a counting server is given by its parts. -/
def GivesParts (env : Environment) : Prop :=
  env.text? "REDIS_URL" = none ∧
    env.text? "REDIS_HOST" ≠ none

/- A password that is given and not empty. -/
def HasPassword
    (env : Environment)
    (password : String) : Prop :=
  env.text? "REDIS_PASSWORD" = some password ∧ password ≠ ""

namespace SameButPassword

variable {env other : Environment}

theorem text?_eq
    (hSame : SameButPassword env other)
    {name : String}
    (hName : name ≠ "REDIS_PASSWORD") :
    env.text? name = other.text? name :=
  congrArg (·.bind Utf8.text?) (hSame name hName)

/- All but the URL is read alike. -/
theorem read_eq (hSame : SameButPassword env other) :
    Settings.read other =
      (Settings.read env).map fun s =>
        { s with redisUrl := other.redisUrl? } := by
  have hNumber
      (name : String)
      (hName : name ≠ "REDIS_PASSWORD") :
      other.number name = env.number name := by
    funext usual
    unfold number
    rw [hSame.text?_eq hName]
  have hText
      (name : String)
      (hName : name ≠ "REDIS_PASSWORD") :
      other.textOr name = env.textOr name := by
    funext usual
    unfold textOr
    rw [hSame.text?_eq hName]
  have hMap
      {α : Type}
      (x : Except LoadFault α)
      (f : α → Except LoadFault Settings)
      (g : Settings → Settings) :
      (x >>= f).map g = x >>= fun a => (f a).map g := by
    cases x <;> rfl
  unfold Settings.read
  simp (disch := decide) only [hNumber, hText, hMap]
  rfl

/- Without parts, the password has nothing to do with it. -/
theorem redisUrl?_eq
    (hSame : SameButPassword env other)
    (hParts : ¬ env.GivesParts) :
    env.redisUrl? = other.redisUrl? := by
  unfold redisUrl?
  rw [← hSame.text?_eq (by decide : "REDIS_URL" ≠ _),
    ← hSame.text?_eq (by decide : "REDIS_HOST" ≠ _)]
  cases hUrl : env.text? "REDIS_URL" with
  | some url => rfl
  | none =>
      cases hHost : env.text? "REDIS_HOST" with
      | none => rfl
      | some host =>
          exact absurd ⟨hUrl, hHost ▸ nofun⟩ hParts

end SameButPassword

/- The parts behind the password, as they are in the URL. -/
def hostPart (env : Environment) : String :=
  env.textOr "REDIS_HOST" "" ++ ":"
    ++ env.textOr "REDIS_PORT" "6379" ++ "/"
    ++ env.textOr "REDIS_DB" "0"

theorem SameButPassword.hostPart_eq
    {env other : Environment}
    (hSame : SameButPassword env other) :
    env.hostPart = other.hostPart := by
  unfold hostPart textOr
  rw [hSame.text?_eq (by decide : "REDIS_HOST" ≠ _),
    hSame.text?_eq (by decide : "REDIS_PORT" ≠ _),
    hSame.text?_eq (by decide : "REDIS_DB" ≠ _)]

/- The URL that is made from the parts. -/
theorem redisUrl?_of_parts
    {env : Environment}
    {password : String}
    (hParts : env.GivesParts)
    (hPassword : env.HasPassword password) :
    env.redisUrl? =
      some ("redis" ++ "://" ++ "" ++ ":" ++ password ++ "@"
        ++ env.hostPart) := by
  rcases hParts with ⟨hUrl, hHost⟩
  rcases Option.ne_none_iff_exists'.mp hHost with
    ⟨host, hHost⟩
  have hEmpty : password.isEmpty = false := by
    rw [Bool.eq_false_iff]
    exact fun hEmpty =>
      hPassword.2 (String.isEmpty_iff.mp hEmpty)
  unfold redisUrl? hostPart textOr
  rw [hUrl, hHost, hPassword.1]
  simp only [Option.map_some, Option.getD_some, hEmpty]
  apply congrArg some
  apply String.toList_injective
  simp only [Bool.false_eq_true, if_false,
    String.toList_append, List.append_assoc]
  rfl

end Environment

end UrlShortener

namespace UrlShortener

namespace Settings

/- The lines of a note tell the note. -/
theorem lines_inj {note other : String}
    (hSame :
      (Text.split '\n' note.toList).map String.ofList =
        (Text.split '\n' other.toList).map String.ofList) :
    note = other := by
  have hParts :=
    List.map_injective_iff.mpr
      (fun _ _ => String.ofList_injective) hSame
  apply String.toList_injective
  rw [← Text.join_split '\n' note.toList,
    ← Text.join_split '\n' other.toList, hParts]

/- Just one of the notes is about the counting server. -/
theorem notes_of_url
    (s : Settings)
    (url : String) :
    { s with redisUrl := some url }.notes =
      s.notes.take 2
        ++ ("  Visit counter: " ++ ("Redis " ++ Masking.mask url))
          :: s.notes.drop 3 :=
  rfl

/- Of a URL, a summary shows what is left by masking. -/
theorem summary_eq_iff
    (s : Settings)
    {url other : String} :
    { s with redisUrl := some url }.summary =
        { s with redisUrl := some other }.summary ↔
      Masking.mask url = Masking.mask other := by
  unfold summary
  rw [notes_of_url, notes_of_url]
  constructor
  · intro hSame
    simp only [List.flatMap_append, List.flatMap_cons,
      List.append_cancel_left_eq] at hSame
    have hNote := lines_inj (List.append_cancel_right hSame)
    exact (String.append_right_inj _).mp
      ((String.append_right_inj _).mp hNote)
  · intro hSame
    rw [hSame]

end Settings

end UrlShortener

namespace UrlShortener

namespace Settings

variable {env other : Environment} {password word : String}

/- The summary of settings whose URL is read from others. -/
theorem map_summary_eq (hSame : env.SameButPassword other) :
    (read other).map summary =
      (read env).map fun s =>
        { s with redisUrl := other.redisUrl? }.summary := by
  rw [hSame.read_eq]
  cases read env <;> rfl

/- URLs made from parts are told apart by what is shown. -/
theorem summary_of_parts_eq_iff
    (hSame : env.SameButPassword other)
    (hParts : env.GivesParts)
    (hPassword : env.HasPassword password)
    (hWord : other.HasPassword word)
    (s : Settings) :
    { s with redisUrl := env.redisUrl? }.summary =
        { s with redisUrl := other.redisUrl? }.summary ↔
      Masking.shown password = Masking.shown word := by
  have hOther : other.GivesParts := by
    unfold Environment.GivesParts at *
    rw [← hSame.text?_eq (by decide : "REDIS_URL" ≠ _),
      ← hSame.text?_eq (by decide : "REDIS_HOST" ≠ _)]
    exact hParts
  rw [Environment.redisUrl?_of_parts hParts hPassword,
    Environment.redisUrl?_of_parts hOther hWord,
    ← hSame.hostPart_eq, summary_eq_iff]
  exact Masking.mask_eq_iff (by decide) (by decide)

/- What is shown of the passwords settles the summaries. -/
theorem map_summary_eq_of_shown
    (hSame : env.SameButPassword other)
    (hPassword : env.HasPassword password)
    (hWord : other.HasPassword word)
    (hShown : Masking.shown password = Masking.shown word) :
    (read env).map summary = (read other).map summary := by
  rw [map_summary_eq hSame,
    map_summary_eq (fun _ _ => rfl : env.SameButPassword env)]
  by_cases hParts : env.GivesParts
  · have hSummary (s : Settings) :=
      (summary_of_parts_eq_iff hSame hParts hPassword hWord
        s).mpr hShown
    simp only [hSummary]
  · rw [hSame.redisUrl?_eq hParts]

/- Where the URL has parts, summaries settle what is shown. -/
theorem shown_eq_of_map_summary
    (hSame : env.SameButPassword other)
    (hParts : env.GivesParts)
    (hPassword : env.HasPassword password)
    (hWord : other.HasPassword word)
    {s : Settings}
    (hRead : read env = .ok s)
    (hSummary :
      (read env).map summary = (read other).map summary) :
    Masking.shown password = Masking.shown word := by
  rw [map_summary_eq hSame,
    map_summary_eq (fun _ _ => rfl : env.SameButPassword env),
    hRead] at hSummary
  exact (summary_of_parts_eq_iff hSame hParts hPassword hWord
    s).mp (Except.ok.inj hSummary)

/-
  What the log shows of a password. In a URL with credentials
  the mask hides all but what is shown of the password, which
  is nothing just when it has no colon and no at sign. So
  runs that differ in the password log the same summary if
  the same is shown of the passwords, and where the URL is
  made from its parts, only then.
-/
theorem summaries_tell_what_is_shown (password : String) :
    (∀ scheme ∈ ["redis", "rediss"],
      ∀ user host : String,
        ':' ∉ user.toList → '@' ∉ user.toList →
        let before := scheme ++ "://" ++ user
        let masked :=
          Masking.mask
            (before ++ ":" ++ password ++ "@" ++ host)
        masked =
          before ++ String.ofList (Masking.shown password).1
            ++ ":***@"
            ++ String.ofList (Masking.shown password).2
            ++ host ∧
        (masked = before ++ ":***@" ++ host ↔
          ':' ∉ password.toList ∧ '@' ∉ password.toList)) ∧
    (∀ (env other : Environment) (word : String),
      env.SameButPassword other →
      env.HasPassword password →
      other.HasPassword word →
        (Masking.shown password = Masking.shown word →
          (read env).map summary = (read other).map summary) ∧
        (env.GivesParts →
          (∃ s, read env = .ok s) →
          (read env).map summary =
            (read other).map summary →
              Masking.shown password =
                Masking.shown word)) := by
  constructor
  · intro scheme hScheme user host hColon hSign
    have hPlain : ':' ∉ scheme.toList := by
      revert scheme
      decide
    exact ⟨Masking.mask_credentials hPlain hSign password host,
      Masking.mask_eq_stars_iff hPlain hSign⟩
  · intro env other word hSame hPassword hWord
    constructor
    · exact map_summary_eq_of_shown hSame hPassword hWord
    · rintro hParts ⟨s, hRead⟩
      exact shown_eq_of_map_summary hSame hParts hPassword hWord
        hRead

/- The environment of a counting server with a password. -/
def sampleEnvironment (password : String) : Environment
| "REDIS_HOST" => some (Utf8.bytes "h")
| "REDIS_PASSWORD" => some (Utf8.bytes password)
| _ => none

theorem sampleEnvironment_same
    (password word : String) :
    (sampleEnvironment password).SameButPassword
      (sampleEnvironment word) := by
  intro name hName
  unfold sampleEnvironment
  split
  · rfl
  · exact absurd rfl hName
  · rfl

theorem sample_passwords_are_masked :
    (read (sampleEnvironment "secret")).map summary =
      (read (sampleEnvironment "swordfish")).map summary := by
  have hSame := sampleEnvironment_same "secret" "swordfish"
  exact ((summaries_tell_what_is_shown "secret").2 _ _
    "swordfish" hSame ⟨by decide +kernel, by decide⟩
    ⟨by decide +kernel, by decide⟩).1 (by decide)

theorem sample_summaries_differ
    {password word : String}
    (hPassword :
      (sampleEnvironment password).HasPassword password)
    (hWord : (sampleEnvironment word).HasPassword word)
    (hShown : Masking.shown password ≠ Masking.shown word) :
    (read (sampleEnvironment password)).map summary ≠
      (read (sampleEnvironment word)).map summary := by
  have hParts : (sampleEnvironment password).GivesParts :=
    ⟨rfl, nofun⟩
  exact mt
    (shown_eq_of_map_summary
      (sampleEnvironment_same password word) hParts hPassword
      hWord rfl)
    hShown

/- Passwords with an at sign or a colon show in part. -/
theorem signs_show_in_summaries :
    Masking.mask "redis://:p@ss@h:6379/0" =
        "redis://:***@ss@h:6379/0" ∧
      Masking.mask "redis://:a:b@h:6379/0" =
        "redis://:a:***@h:6379/0" ∧
      (read (sampleEnvironment "p@ss")).map summary ≠
        (read (sampleEnvironment "p@th")).map summary ∧
      (read (sampleEnvironment "a:b")).map summary ≠
        (read (sampleEnvironment "c:b")).map summary :=
  ⟨by decide +kernel, by decide +kernel,
    sample_summaries_differ ⟨by decide +kernel, by decide⟩
      ⟨by decide +kernel, by decide⟩ (by decide),
    sample_summaries_differ ⟨by decide +kernel, by decide⟩
      ⟨by decide +kernel, by decide⟩ (by decide)⟩

end Settings

end UrlShortener
