import UrlShortener.Proofs.Redis.Place
import UrlShortener.Proofs.Settings.Masking
import UrlShortener.Proofs.Url.Written

/-
  What a client reads of the parts that make up the URL of a
  counting server. The password is not escaped in the URL,
  so it is read as it was given only if it has no mark that
  ends the authority, nothing that is dropped from URLs, and
  nothing that looks like an escape.

  Key definitions include:
    * `ServerAddress.Survives`
    * `Environment.GivesServer`

  Main declarations:
    * `ServerAddress.ofUrl_parts_password`
    * `ServerAddress.password_ne_of_endMark`
    * `ServerAddress.ofText_eq_parts_iff`
    * `Environment.parts_are_read_back`
    * `Environment.passwords_do_not_survive`
-/

------------------------------------------------------------
-- Addresses
------------------------------------------------------------

namespace UrlShortener

namespace ServerAddress

variable {host port database : List Char} {n d : Nat}

/- A path of digits is the number of a database. -/
theorem readDatabase_digits
    (hDatabase : IsNumeral database d)
    (hFits : d ≤ Signed.maxNumber) :
    readDatabase (withoutSlashes ('/' :: database)) =
      .ok (d : Int) := by
  have hSlash (c : Char) (hMem : c ∈ database) :
      (c == '/') = false := by
    have hDigit := hDatabase.digits c hMem
    exact beq_eq_false_iff_ne.mpr
      ((isHostChar_of_isDigit hDigit).harmless.ne (by decide))
  have hKept {cs : List Char} (hPart : cs ⊆ database) :
      cs.dropWhile (· == '/') = cs :=
    Text.dropWhile_eq_self fun c hHead =>
      hSlash c (hPart (List.mem_of_mem_head? hHead))
  have hBare : withoutSlashes ('/' :: database) = database := by
    unfold withoutSlashes
    rw [List.dropWhile_cons_of_pos (by decide),
      hKept (List.Subset.refl _),
      hKept (fun _ hMem => List.mem_reverse.mp hMem),
      List.reverse_reverse]
  have hSome : database.isEmpty = false :=
    List.isEmpty_eq_false_iff.mpr hDatabase.not_empty
  rw [hBare, readDatabase, hSome,
    Signed.read?_of_numeral hDatabase hFits]
  rfl

/- A server of this scheme is on a host. -/
theorem ofUrl_of_scheme
    {u : Url}
    (hScheme : u.scheme = "redis".toList) :
    ofUrl u = onHost u false := by
  have hKnown :
      hostSchemes.contains (String.ofList "redis".toList) =
        true := by decide
  unfold ofUrl
  rw [hScheme]
  exact if_pos hKnown

/- The address in a URL whose path is a number. -/
theorem ofUrl_ofPlace
    {user? : Option (List Char)}
    (hPlace : Url.IsPlace host port n)
    (hDatabase : IsNumeral database d)
    (hFits : d ≤ Signed.maxNumber)
    (hUser : (Url.ofPlace user? host n).username = []) :
    ofUrl { Url.ofPlace user? host n with
        path := '/' :: database } =
      (readPassword (Url.ofPlace user? host n)).map
        fun password =>
          { endpoint := .host host n
            database := d
            user := none
            password } := by
  have hHost :
      hostName? { Url.ofPlace user? host n with
        path := '/' :: database } = some host := by
    rcases List.exists_cons_of_ne_nil hPlace.name.1 with
      ⟨c, more, rfl⟩
    rfl
  have hNobody :
      readUser { Url.ofPlace user? host n with
        path := '/' :: database } = .ok none := by
    unfold readUser
    rw [hUser]
    rfl
  have hNumber := readDatabase_digits hDatabase hFits
  rw [ofUrl_of_scheme rfl, onHost, hHost]
  dsimp only
  rw [if_neg (by decide), hNumber, hNobody]
  change (readPassword (Url.ofPlace user? host n)).bind _ = _
  cases readPassword (Url.ofPlace user? host n) <;> rfl

end ServerAddress

end UrlShortener

------------------------------------------------------------
-- Passwords
------------------------------------------------------------

namespace UrlShortener

namespace Url

/- A password is a part of what stands behind a colon. -/
theorem password_of_readUser
    {cs secret : List Char}
    (hSecret : secret ∈ (readUser cs).2) :
    ∃ part, (':' :: part).Sublist cs ∧
      secret = Percent.escape escapedInUser part := by
  unfold readUser at hSecret
  dsimp only at hSecret
  split at hSecret
  · cases hSecret
  · rename_i hSome
    cases hSecret
    refine ⟨_, ?_, rfl⟩
    cases hRest : cs.dropWhile (· != ':') with
    | nil =>
        rw [hRest] at hSome
        exact absurd rfl hSome
    | cons c rest =>
        have hStop := List.head?_dropWhile_not (· != ':') cs
        rw [hRest] at hStop
        have hColon : c = ':' := by simpa using hStop
        rw [List.drop_one, List.tail_cons, ← hColon, ← hRest]
        exact List.dropWhile_sublist _

/- The user stands in front of the place. -/
theorem splitLastAt_sublist (cs : List Char) :
    ((splitLastAt cs).1.getD []).Sublist cs := by
  unfold splitLastAt
  dsimp only
  split
  · exact List.nil_sublist cs
  · exact List.take_sublist _ _

/- So does the password of an authority that was read. -/
theorem password_of_readAuthority
    {s : Scheme}
    {scheme region left : List Char}
    {isLast : Bool}
    {u : Url}
    (hRead :
      readAuthority s scheme region isLast = .ok (u, left)) :
    ∀ secret ∈ u.password, ∃ part,
      (':' :: part).Sublist region ∧
        secret = Percent.escape escapedInUser part := by
  rcases readAuthority_eq_ok hRead with ⟨_, _, _, _, rfl⟩
  intro secret hSecret
  rcases password_of_readUser hSecret with
    ⟨part, hPart, hEscape⟩
  exact ⟨part, hPart.trans (splitLastAt_sublist region),
    hEscape⟩

end Url

end UrlShortener

namespace UrlShortener

namespace ServerAddress

open Percent (holdsEscape unescape)

variable {host port database password : List Char} {n d : Nat}

/-
  A password that is read as it was given: it has no mark
  that ends the authority, no tab and no line break, which
  are dropped, and nothing that is taken for an escape.
-/
def Survives (password : List Char) : Prop :=
  (∀ c ∈ password, c ∉ "/?#\t\n\r".toList) ∧
    holdsEscape password = false

/- It has no end mark, is kept and stands for itself. -/
theorem survives_iff :
    Survives password ↔
      (∀ c ∈ password, c ∉ Url.endMarks) ∧
        password.filter (fun c => !Url.isSkipped c) = password ∧
        unescape (Utf8.encode password) =
          Utf8.encode password := by
  have hMarks (c : Char) :
      c ∉ "/?#\t\n\r".toList ↔
        c ∉ Url.endMarks ∧ Url.isSkipped c = false := by
    simp [Url.endMarks, Url.isSkipped, and_assoc]
  rw [Survives, Percent.unescape_eq_self_iff,
    List.filter_eq_self, ← and_assoc]
  simp only [hMarks, Bool.not_eq_true', forall_and]

/- The address in a URL that is made from its parts. -/
def ofParts
    (host : List Char)
    (n d : Nat)
    (password : Option (List Char)) : ServerAddress :=
  { endpoint := .host host n
    database := d
    user := none
    password }

/- Without a password, the parts are read back. -/
theorem ofUrl_parts
    (hPlace : Url.IsPlace host port n)
    (hDatabase : IsNumeral database d)
    (hFits : d ≤ Signed.maxNumber)
    {s : String}
    (hText :
      s.toList = "redis://".toList ++
        (Url.userPart none ++ Url.placePart host port
          ++ '/' :: database)) :
    ofText s = .ok (ofParts host n d none) := by
  unfold ofText Url.ofText
  rw [hText, Url.parse_parts hPlace hDatabase (by simp)]
  exact ofUrl_ofPlace hPlace hDatabase hFits rfl

/-
  A password without end marks leaves the other parts as
  they are. It is read without tabs and line breaks and with
  its escapes undone.
-/
theorem ofUrl_parts_password
    (hPlace : Url.IsPlace host port n)
    (hDatabase : IsNumeral database d)
    (hFits : d ≤ Signed.maxNumber)
    (hMarks : ∀ c ∈ password, c ∉ Url.endMarks)
    {s : String}
    (hText :
      s.toList = "redis://".toList ++
        (Url.userPart (some (':' :: password))
          ++ Url.placePart host port ++ '/' :: database))
    {out : List Char} :
    ofText s = .ok (ofParts host n d (some out)) ↔
      password.filter (fun c => !Url.isSkipped c) ≠ [] ∧
        unescape (Utf8.encode
          (password.filter fun c => !Url.isSkipped c)) =
            Utf8.encode out := by
  have hUser :
      ∀ user ∈ some (':' :: password), ∀ c ∈ user,
        c ∉ Url.endMarks := by
    rintro user ⟨⟩
    exact List.forall_mem_cons.mpr ⟨by decide, hMarks⟩
  have hColon :
      (':' :: password).filter (fun c => !Url.isSkipped c) =
        ':' :: password.filter fun c => !Url.isSkipped c := rfl
  unfold ofText Url.ofText
  rw [hText, Url.parse_parts hPlace hDatabase hUser,
    Option.map_some, hColon]
  dsimp only
  rw [ofUrl_ofPlace hPlace hDatabase hFits rfl]
  generalize password.filter (fun c => !Url.isSkipped c) = kept
  cases kept with
  | nil =>
      refine iff_of_false ?_ (fun hBoth => hBoth.1 rfl)
      rintro ⟨⟩
  | cons c rest =>
      have hSecret :
          (Url.ofPlace
              (some (':' :: c :: rest)) host n).password =
            some (Percent.escape Url.escapedInUser
              (c :: rest)) := rfl
      rw [← Url.keepsEscapes_user.decode?_escape_eq_some_iff,
        readPassword, hSecret]
      dsimp only
      cases hDecoded :
          Percent.decode?
            (Percent.escape Url.escapedInUser (c :: rest)) with
      | none => exact ⟨nofun, nofun⟩
      | some text =>
          constructor
          · rintro ⟨⟩
            exact ⟨List.cons_ne_nil c rest, rfl⟩
          · rintro ⟨_, ⟨⟩⟩
            rfl

/- An address has the password of its URL. -/
theorem readPassword_of_onHost
    {u : Url}
    {a : ServerAddress}
    (hRead : onHost u false = .ok a) :
    readPassword u = .ok a.password := by
  unfold onHost at hRead
  split at hRead
  · cases hRead
  · rw [if_neg (by decide)] at hRead
    rcases bind_eq_ok hRead with ⟨_, _, hRead⟩
    rcases bind_eq_ok hRead with ⟨_, _, hRead⟩
    rcases bind_eq_ok hRead with ⟨password, hPassword, hRead⟩
    rcases bind_eq_ok hRead with ⟨_, _, hRead⟩
    cases hRead
    exact hPassword

/- What is read of a password in front of an end mark. -/
theorem password_lt_of_endMark
    {scheme kept : List Char}
    {mark : Char}
    (hMark : mark ∈ Url.endMarks)
    (hMem : mark ∈ kept)
    {more : List Char}
    {u : Url}
    (hRead :
      Url.readSlashed .other scheme (':' :: (kept ++ more)) =
        .ok u) :
    ∀ secret ∈ u.password, ∃ part,
      (Utf8.encode part).length < (Utf8.encode kept).length ∧
        secret = Percent.escape Url.escapedInUser part := by
  have hEnds : (!Scheme.other.endsAuthority mark) = false := by
    rw [Bool.not_eq_false', ← Bool.not_eq_false,
      Url.endsAuthority_eq_false_iff]
    exact not_not_intro hMark
  rcases Text.exists_stop
      (p := fun c => !Scheme.other.endsAuthority c) hMem hEnds
    with ⟨front, stop, back, rfl, hFront, hStop⟩
  have hRegion :
      (':' :: (front ++ stop :: back ++ more)).takeWhile
          (fun c => !Scheme.other.endsAuthority c) =
        ':' :: front := by
    rw [List.append_assoc, ← List.cons_append]
    refine Text.takeWhile_stop ?_ hStop _
    exact List.forall_mem_cons.mpr ⟨by decide, hFront⟩
  intro secret hSecret
  rcases bind_eq_ok hRead with ⟨⟨v, left⟩, hAuthority, hUrl⟩
  cases hUrl
  rw [hRegion] at hAuthority
  rcases Url.password_of_readAuthority hAuthority secret
      hSecret with
    ⟨part, hPart, hEscape⟩
  have hInFront := List.cons_sublist_cons.mp hPart
  refine ⟨part, ?_, hEscape⟩
  apply Utf8.length_encode_lt
  · exact hInFront.trans (List.sublist_append_left _ _)
  · rintro rfl
    have hLength := hInFront.length_le
    rw [List.length_append, List.length_cons] at hLength
    omega

/- A password with an end mark is not read. -/
theorem password_ne_of_endMark
    (hDatabase : IsNumeral database d)
    {mark : Char}
    (hMark : mark ∈ Url.endMarks)
    (hMem : mark ∈ password)
    {place : List Char}
    {s : String}
    (hText :
      s.toList = "redis://".toList ++
        (Url.userPart (some (':' :: password)) ++ place
          ++ '/' :: database))
    {a : ServerAddress}
    (hRead : ofText s = .ok a) :
    a.password ≠ some password := by
  intro hSame
  have hParts :
      (Url.userPart (some (':' :: password)) ++ place).filter
          (fun c => !Url.isSkipped c) =
        ':' :: (password.filter (fun c => !Url.isSkipped c) ++
          ('@' :: place).filter fun c => !Url.isSkipped c) := by
    rw [Url.userPart, List.append_assoc, List.filter_append]
    rfl
  have hKept :
      mark ∈ password.filter fun c => !Url.isSkipped c := by
    have hAll :
        (Url.endMarks.all fun c => !Url.isSkipped c) = true := by
      decide
    exact List.mem_filter.mpr
      ⟨hMem, List.all_eq_true.mp hAll mark hMark⟩
  have hLess := Utf8.length_encode_le
    (List.filter_sublist (p := fun c => !Url.isSkipped c)
      (l := password))
  unfold ofText Url.ofText at hRead
  split at hRead
  · rename_i u hParse
    rw [hText,
      Url.parse_of_cleaned (Url.cleaned_parts hDatabase), hParts,
      List.cons_append, List.append_assoc] at hParse
    have hShorter := password_lt_of_endMark hMark hKept hParse
    rw [ofUrl_of_scheme (Url.scheme_of_readSlashed hParse)]
      at hRead
    have hPassword := readPassword_of_onHost hRead
    rw [hSame] at hPassword
    unfold readPassword at hPassword
    split at hPassword
    · cases hPassword
    · rename_i secret hSecret
      rcases hShorter secret hSecret with ⟨part, hLength, rfl⟩
      split at hPassword
      · rename_i text hDecoded
        cases hPassword
        rw [Url.keepsEscapes_user.decode?_escape_eq_some_iff]
          at hDecoded
        have hUndone := Percent.length_unescape_le part
        rw [hDecoded] at hUndone
        exact absurd (Nat.lt_of_lt_of_le hLength hLess)
          (Nat.not_lt.mpr hUndone)
      · cases hPassword
  · cases hRead

/- All parts are read back just when the password survives. -/
theorem ofText_eq_parts_iff
    (hPlace : Url.IsPlace host port n)
    (hDatabase : IsNumeral database d)
    (hFits : d ≤ Signed.maxNumber)
    (hSome : password ≠ [])
    {s : String}
    (hText :
      s.toList = "redis://".toList ++
        (Url.userPart (some (':' :: password))
          ++ Url.placePart host port ++ '/' :: database)) :
    ofText s = .ok (ofParts host n d (some password)) ↔
      Survives password := by
  rw [survives_iff]
  by_cases hMarks : ∀ c ∈ password, c ∉ Url.endMarks
  · rw [ofUrl_parts_password hPlace hDatabase hFits hMarks
      hText]
    constructor
    · rintro ⟨_, hRead⟩
      have hKept :
          password.filter (fun c => !Url.isSkipped c) =
            password := by
        by_contra hOther
        have hLess :=
          Utf8.length_encode_lt List.filter_sublist hOther
        have hUndone := Percent.length_unescape_le
          (password.filter fun c => !Url.isSkipped c)
        rw [hRead] at hUndone
        exact absurd hLess (Nat.not_lt.mpr hUndone)
      rw [hKept] at hRead
      exact ⟨hMarks, hKept, hRead⟩
    · rintro ⟨_, hKept, hRead⟩
      rw [hKept]
      exact ⟨hSome, hRead⟩
  · refine iff_of_false ?_ (fun hAll => hMarks hAll.1)
    intro hRead
    push Not at hMarks
    rcases hMarks with ⟨mark, hMem, hMark⟩
    exact password_ne_of_endMark hDatabase hMark hMem hText
      hRead rfl

end ServerAddress

end UrlShortener

------------------------------------------------------------
-- Servers That Are Given By Parts
------------------------------------------------------------

namespace UrlShortener

namespace Environment

/-
  A server that is given by a host name, a port and a
  database, of which the last two may be left out.
-/
structure GivesServer
    (env : Environment)
    (host : String)
    (port database : Nat) : Prop where
  no_url : env.text? "REDIS_URL" = none
  host_given : env.text? "REDIS_HOST" = some host
  host_name : IsHostName host.toList
  port_numeral :
    IsNumeral (env.textOr "REDIS_PORT" "6379").toList port
  port_fits : port ≤ Url.maxPort
  database_numeral :
    IsNumeral (env.textOr "REDIS_DB" "0").toList database
  database_fits : database ≤ Signed.maxNumber

namespace GivesServer

variable {env : Environment} {host : String}
variable {port database : Nat}

theorem place
    (hServer : env.GivesServer host port database) :
    Url.IsPlace host.toList
      (env.textOr "REDIS_PORT" "6379").toList port :=
  ⟨hServer.host_name, hServer.port_numeral, hServer.port_fits⟩

/- The URL is made of the parts as they are given. -/
theorem redisUrl?_eq
    (hServer : env.GivesServer host port database) :
    ∃ url, env.redisUrl? = some url ∧
      url.toList = "redis://".toList ++
        (Url.userPart
            (if env.textOr "REDIS_PASSWORD" "" = "" then none
            else some
              (':' :: (env.textOr "REDIS_PASSWORD" "").toList))
          ++ Url.placePart host.toList
            (env.textOr "REDIS_PORT" "6379").toList
          ++ '/' :: (env.textOr "REDIS_DB" "0").toList) := by
  unfold redisUrl?
  rw [hServer.no_url, hServer.host_given]
  refine ⟨_, rfl, ?_⟩
  dsimp only
  by_cases hEmpty : env.textOr "REDIS_PASSWORD" "" = ""
  · rw [if_pos hEmpty, if_pos (String.isEmpty_iff.mpr hEmpty)]
    simp only [String.toList_append, String.append_empty]
    simp [Url.userPart, Url.placePart]
  · rw [if_neg hEmpty, if_neg (mt String.isEmpty_iff.mp hEmpty)]
    simp [Url.userPart, Url.placePart]

end GivesServer

/-
  What a client reads of the parts that make up the URL of a
  counting server. Without a password it reads the parts. It
  reads them together with a password just when that one
  survives: `/`, `?`, `#`, tabs, line breaks and whatever
  looks like an escape do not, as the password is not escaped
  in the URL.
-/
theorem parts_are_read_back
    {env : Environment}
    {host : String}
    {port database : Nat}
    (hServer : env.GivesServer host port database) :
    ∃ url, env.redisUrl? = some url ∧
      (env.textOr "REDIS_PASSWORD" "" = "" →
        ServerAddress.ofText url =
          .ok (.ofParts host.toList port database none)) ∧
      ∀ password, env.HasPassword password →
        (ServerAddress.ofText url =
            .ok (.ofParts host.toList port database
              (some password.toList)) ↔
          ServerAddress.Survives password.toList) := by
  rcases hServer.redisUrl?_eq with ⟨url, hUrl, hText⟩
  refine ⟨url, hUrl, ?_, ?_⟩
  · intro hEmpty
    rw [if_pos hEmpty] at hText
    exact ServerAddress.ofUrl_parts hServer.place
      hServer.database_numeral hServer.database_fits hText
  · rintro password ⟨hGiven, hSome⟩
    have hPassword :
        env.textOr "REDIS_PASSWORD" "" = password := by
      rw [textOr, hGiven]
      rfl
    rw [hPassword, if_neg hSome] at hText
    have hChars : password.toList ≠ [] :=
      mt String.toList_eq_nil_iff.mp hSome
    exact ServerAddress.ofText_eq_parts_iff hServer.place
      hServer.database_numeral hServer.database_fits hChars
      hText

/- Such a password may have any other mark of a URL. -/
theorem sample_parts_are_read_back :
    let env := Settings.sampleEnvironment "p@:s\\5%|é"
    env.redisUrl? = some "redis://:p@:s\\5%|é@h:6379/0" ∧
      ServerAddress.ofText "redis://:p@:s\\5%|é@h:6379/0" =
        .ok (.ofParts "h".toList 6379 0
          (some "p@:s\\5%|é".toList)) := by
  intro env
  have hServer : env.GivesServer "h" 6379 0 := {
    no_url := rfl
    host_given := by decide +kernel
    host_name := ⟨by decide, by simp [IsHostChar]⟩
    port_numeral :=
      ⟨by decide, List.all_eq_true.mp (by decide), by decide⟩
    port_fits := by decide
    database_numeral :=
      ⟨by decide, List.all_eq_true.mp (by decide), by decide⟩
    database_fits := by decide }
  have hText :
      env.redisUrl? = some "redis://:p@:s\\5%|é@h:6379/0" := by
    decide +kernel
  rcases parts_are_read_back hServer with ⟨url, hUrl, _, hRead⟩
  obtain rfl := Option.some.inj (hUrl.symm.trans hText)
  exact ⟨hText,
    (hRead _ ⟨by decide +kernel, by decide⟩).mpr
      ⟨by simp, by decide⟩⟩

/-
  Other passwords are refused, changed, or name a server of
  their own.
-/
theorem passwords_do_not_survive :
    (Settings.sampleEnvironment "a/b").redisUrl? =
        some "redis://:a/b@h:6379/0" ∧
      ServerAddress.ofText "redis://:a/b@h:6379/0" =
        .error .notServerUrl ∧
      (Settings.sampleEnvironment "a%41b").redisUrl? =
        some "redis://:a%41b@h:6379/0" ∧
      ServerAddress.ofText "redis://:a%41b@h:6379/0" =
        .ok (.ofParts "h".toList 6379 0 (some "aAb".toList)) ∧
      (Settings.sampleEnvironment "a@b?").redisUrl? =
        some "redis://:a@b?@h:6379/0" ∧
      ServerAddress.ofText "redis://:a@b?@h:6379/0" =
        .ok (.ofParts "b".toList 6379 0 (some "a".toList)) := by
  decide +kernel

end Environment

end UrlShortener
