import UrlShortener.Proofs.Number.Printed
import UrlShortener.Proofs.Text.Cuts
import UrlShortener.Proofs.Text.Unescape
import UrlShortener.Url.Parser

/-
  The reading of URLs, step by step: which characters of a
  text are dropped, where its scheme ends, what was read when
  an authority was, and where a path leads.

  Key definitions include:
    * `Url.userPart`
    * `Url.BeginsPort`
    * `Url.hostOf`

  Main declarations:
    * `Url.cleaned_eq_filter`
    * `Url.splitScheme?_append`
    * `Url.splitLastAt_append`
    * `Url.readPort_of_numeral`
    * `Url.readAuthority_eq_ok`
    * `Url.walk_forall`
    * `Url.walk_eq_self`
-/

------------------------------------------------------------
-- Dropped Characters
------------------------------------------------------------

namespace UrlShortener

namespace Url

variable {cs : List Char}

/- A text without blanks around it keeps its ends. -/
theorem cleaned_eq_filter
    (hHead : ∀ c ∈ cs.head?, isStripped c = false)
    (hLast : ∀ c ∈ cs.getLast?, isStripped c = false) :
    cleaned cs = cs.filter fun c => !isSkipped c := by
  unfold cleaned
  dsimp only
  rw [Text.dropWhile_eq_self hHead, Text.dropWhile_eq_self,
    List.reverse_reverse]
  intro c hFirst
  rw [List.head?_reverse] at hFirst
  exact hLast c hFirst

/- A text without any such character stays as it is. -/
theorem filter_skipped_eq_self
    (hNone : ∀ c ∈ cs, isSkipped c = false) :
    cs.filter (fun c => !isSkipped c) = cs := by
  rw [List.filter_eq_self]
  intro c hMem
  rw [hNone c hMem]
  rfl

/- A scheme ends at the first colon. -/
theorem splitScheme?_append
    {c : Char}
    {name : List Char}
    (hLetter : c.isAlpha = true)
    (hName : ∀ d ∈ c :: name, isSchemeChar d = true)
    (rest : List Char) :
    splitScheme? (c :: name ++ ':' :: rest) =
      some ((c :: name).map Char.toLower, rest) := by
  have hColon : isSchemeChar ':' = false := by decide
  unfold splitScheme?
  rw [List.cons_append]
  dsimp only
  rw [if_pos hLetter, ← List.cons_append,
    Text.dropWhile_stop hName hColon,
    Text.takeWhile_stop hName hColon]
  rfl

end Url

end UrlShortener

------------------------------------------------------------
-- Users And Hosts
------------------------------------------------------------

namespace UrlShortener

/- What came out of two readings came out of both. -/
theorem bind_eq_ok
    {ε α β : Type}
    {x : Except ε α}
    {f : α → Except ε β}
    {b : β}
    (hBind : x.bind f = .ok b) :
    ∃ a, x = .ok a ∧ f a = .ok b := by
  cases x with
  | error fault => cases hBind
  | ok a => exact ⟨a, rfl, hBind⟩

namespace Url

/- The part in front of a host, with its at sign. -/
def userPart : Option (List Char) → List Char
| none => []
| some user => user ++ ['@']

/- The user ends at the last at sign, which is its own. -/
theorem splitLastAt_append
    {user? : Option (List Char)}
    {place : List Char}
    (hNone : '@' ∉ place) :
    splitLastAt (userPart user? ++ place) = (user?, place) := by
  cases user? with
  | none =>
      have hAll :
          place.reverse.takeWhile (· != '@') =
            place.reverse := by
        rw [List.takeWhile_eq_self_iff]
        exact Text.bne_of_not_mem (mt List.mem_reverse.mp hNone)
      unfold splitLastAt userPart
      rw [List.nil_append, hAll, List.reverse_reverse]
      exact if_pos rfl
  | some user =>
      have hReverse :
          (userPart (some user) ++ place).reverse =
            place.reverse ++ '@' :: user.reverse := by
        simp [userPart]
      have hLength :
          (userPart (some user) ++ place).length =
            user.length + 1 + place.length := by
        simp [userPart]
        omega
      unfold splitLastAt
      rw [hReverse, Text.takeWhile_append
        (mt List.mem_reverse.mp hNone), List.reverse_reverse]
      dsimp only
      rw [hLength, if_neg (by omega), Nat.add_sub_cancel,
        Nat.add_sub_cancel, userPart, List.append_assoc,
        List.take_left]

/- A text that a port or nothing at all begins with. -/
def BeginsPort (rest : List Char) : Prop :=
  rest = [] ∨ ∃ digits, rest = ':' :: digits

theorem BeginsPort.splitPort
    {rest : List Char}
    (hPort : BeginsPort rest) :
    Url.splitPort false rest = ([], rest) := by
  rcases hPort with rfl | ⟨digits, rfl⟩ <;> rfl

/- A host without colons and brackets ends at the port. -/
theorem splitPort_append
    {host rest : List Char}
    (hHost : ∀ c ∈ host, c ≠ ':' ∧ c ≠ '[' ∧ c ≠ ']')
    (hPort : BeginsPort rest) :
    splitPort false (host ++ rest) = (host, rest) := by
  induction host with
  | nil => exact hPort.splitPort
  | cons c host ih =>
      rcases List.forall_mem_cons.mp hHost with
        ⟨⟨hColon, hOpen, hClosed⟩, hRest⟩
      rw [List.cons_append, splitPort,
        if_neg (by simp [hColon]), if_neg hOpen, if_neg hClosed]
      dsimp only
      rw [ih hRest]

/- A host in brackets ends with them. -/
theorem splitPort_brackets
    {inner rest : List Char}
    (hInner : ∀ c ∈ inner, c ≠ '[' ∧ c ≠ ']')
    (hPort : BeginsPort rest) :
    splitPort false ('[' :: inner ++ [']'] ++ rest) =
      ('[' :: inner ++ [']'], rest) := by
  have hInside :
      splitPort true (inner ++ ']' :: rest) =
        (inner ++ [']'], rest) := by
    induction inner with
    | nil =>
        rw [List.nil_append, splitPort, if_neg (by simp),
          if_neg (by decide), if_pos rfl]
        dsimp only
        rw [hPort.splitPort]
        rfl
    | cons c inner ih =>
        rcases List.forall_mem_cons.mp hInner with
          ⟨⟨hOpen, hClosed⟩, hRest⟩
        rw [List.cons_append, splitPort, if_neg (by simp),
          if_neg hOpen, if_neg hClosed]
        dsimp only
        rw [ih hRest]
        rfl
  rw [List.append_assoc, List.cons_append, splitPort,
    if_neg (by decide), if_pos rfl]
  dsimp only
  rw [List.singleton_append, hInside]
  rfl

end Url

end UrlShortener

------------------------------------------------------------
-- Ports
------------------------------------------------------------

namespace UrlShortener

namespace Url

/- Digits are read as the port that they stand for. -/
theorem portDigits_eq_ok
    {cs : List Char}
    {n : Nat}
    (hDigits : ∀ c ∈ cs, c.isDigit = true)
    (hFits : Nat.ofDigitChars 10 cs n ≤ maxPort) :
    portDigits n cs = .ok (Nat.ofDigitChars 10 cs n) := by
  induction cs generalizing n with
  | nil => rfl
  | cons c cs ih =>
      have hAll := List.forall_mem_cons.mp hDigits
      rw [Nat.ofDigitChars_cons] at hFits ⊢
      have hNext : 10 * n + (c.toNat - 48) ≤ maxPort :=
        Nat.le_trans (le_ofDigitChars cs _) hFits
      rw [portDigits, if_pos hAll.1]
      dsimp only
      rw [if_pos hNext]
      exact ih hAll.2 hFits

/- They never stand for more than the largest one. -/
theorem portDigits_le
    {cs : List Char}
    {n m : Nat}
    (hFits : n ≤ maxPort)
    (hRead : portDigits n cs = .ok m) : m ≤ maxPort := by
  induction cs generalizing n with
  | nil =>
      cases hRead
      exact hFits
  | cons c cs ih =>
      rw [portDigits] at hRead
      split at hRead
      · dsimp only at hRead
        split at hRead
        · rename_i hNext
          exact ih hNext hRead
        · cases hRead
      · cases hRead

/- A port is read unless it is the one of its scheme. -/
theorem readPort_of_numeral
    {s : Scheme}
    {port : List Char}
    {n : Nat}
    (hNumeral : IsNumeral port n)
    (hFits : n ≤ maxPort)
    (hOther : s ≠ .special n) :
    readPort s (':' :: port) = .ok (some n) := by
  have hDigits :=
    portDigits_eq_ok hNumeral.digits (n := 0)
      (by rw [hNumeral.value]; exact hFits)
  have hSome : port.isEmpty = false :=
    List.isEmpty_eq_false_iff.mpr hNumeral.not_empty
  rw [hNumeral.value] at hDigits
  rw [readPort, hDigits]
  refine if_neg ?_
  rw [hSome, Bool.false_or, decide_eq_false hOther]
  exact Bool.false_ne_true

/- The port that was read is none of its scheme. -/
theorem readPort_eq_some
    {s : Scheme}
    {cs : List Char}
    {n : Nat}
    (hRead : readPort s cs = .ok (some n)) :
    n ≤ maxPort ∧ s ≠ .special n := by
  cases cs with
  | nil => cases hRead
  | cons _ digits =>
      rcases bind_eq_ok hRead with ⟨m, hDigits, hRead⟩
      split at hRead
      · cases hRead
      · rename_i hOther
        cases hRead
        rw [Bool.or_eq_true, not_or, decide_eq_true_eq] at hOther
        exact ⟨portDigits_le (Nat.zero_le _) hDigits, hOther.2⟩

end Url

end UrlShortener

------------------------------------------------------------
-- Authorities
------------------------------------------------------------

namespace UrlShortener

namespace Url

/- The host of an authority, read after its scheme. -/
def hostOf (s : Scheme) (host : List Char) :
    Except UrlFault Host :=
  match s with
  | .other => Host.ofOther host
  | _ => Host.ofDomain host

/-
  An authority that was read gives a URL with its user, its
  host and maybe a port, and with nothing else.
-/
theorem readAuthority_eq_ok
    {s : Scheme}
    {scheme region left : List Char}
    {isLast : Bool}
    {u : Url}
    (hRead :
      readAuthority s scheme region isLast = .ok (u, left)) :
    let (user?, place) := splitLastAt region
    let (host, rest) := splitPort false place
    ∃ h port?,
      hostOf s host = .ok h ∧
      readPort s (cutPort s rest).1 = .ok port? ∧
      u = {
        scheme
        username := (readUser (user?.getD [])).1
        password := (readUser (user?.getD [])).2
        host := some h
        port := port?
        path := [], query := none, fragment := none } := by
  unfold readAuthority at hRead
  dsimp only [bind] at hRead
  split at hRead
  · cases hRead
  · cases s with
    | other =>
        rcases bind_eq_ok hRead with ⟨h, hHost, hRead⟩
        rcases bind_eq_ok hRead with ⟨port?, hPort, hRead⟩
        cases hRead
        refine ⟨h, port?, ?_, hPort, rfl⟩
        unfold readOtherHost at hHost
        split at hHost
        · cases hHost
        · exact hHost
    | _ =>
        dsimp only at hRead
        split at hRead
        · cases hRead
        · rcases bind_eq_ok hRead with ⟨h, hHost, hRead⟩
          rcases bind_eq_ok hRead with ⟨port?, hPort, hRead⟩
          cases hRead
          exact ⟨h, port?, hHost, hPort, rfl⟩

theorem scheme_of_readSlashed
    {s : Scheme}
    {scheme cs : List Char}
    {u : Url}
    (hRead : readSlashed s scheme cs = .ok u) :
    u.scheme = scheme := by
  rcases bind_eq_ok hRead with ⟨⟨v, left⟩, hAuthority, hUrl⟩
  cases hUrl
  rcases readAuthority_eq_ok hAuthority with
    ⟨_, _, _, _, rfl⟩
  rfl

/- A file that was read is on this machine or on a host. -/
theorem readFile_eq_ok
    {scheme cs : List Char}
    {u : Url}
    (hRead : readFile scheme cs = .ok u) :
    ∃ host rest, u = fileOn scheme host rest ∧
      (host = ownHost ∨ ∃ name, Host.ofDomain name = .ok host) := by
  unfold readFile at hRead
  split at hRead
  · split at hRead
    · dsimp only at hRead
      split at hRead
      · cases hRead
        exact ⟨ownHost, _, rfl, .inl rfl⟩
      · rename_i rest _ _
        generalize rest.takeWhile (fun c =>
          !Scheme.file.endsAuthority c) = name at hRead
        cases hFile : fileHost name with
        | error fault =>
            rw [hFile] at hRead
            cases hRead
        | ok host =>
            rw [hFile] at hRead
            cases hRead
            refine ⟨host, _, rfl, ?_⟩
            rcases bind_eq_ok hFile with ⟨given, hGiven, hFile⟩
            split at hFile
            · cases hFile
              exact .inl rfl
            · cases hFile
              exact .inr ⟨name, hGiven⟩
    · cases hRead
      exact ⟨ownHost, _, rfl, .inl rfl⟩
  · cases hRead
    exact ⟨ownHost, _, rfl, .inl rfl⟩

/- The scheme of a URL is what its text begins with. -/
theorem splitScheme?_of_parse
    {cs : List Char}
    {u : Url}
    (hParse : parse cs = .ok u) :
    ∃ rest,
      splitScheme? (cleaned cs) = some (u.scheme, rest) := by
  unfold parse at hParse
  split at hParse
  · cases hParse
  · rename_i scheme rest hSplit
    suffices hScheme : u.scheme = scheme by
      exact ⟨rest, hScheme ▸ hSplit⟩
    split at hParse
    · exact scheme_of_readSlashed hParse
    · rcases readFile_eq_ok hParse with ⟨_, _, rfl, _⟩
      rfl
    · unfold readOther at hParse
      split at hParse
      · exact scheme_of_readSlashed hParse
      · cases hParse
        rfl
      · cases hParse
        rfl

end Url

end UrlShortener

------------------------------------------------------------
-- Escaped Parts
------------------------------------------------------------

namespace UrlShortener

namespace Url

/- The name and the password of a user were escaped. -/
theorem readUser_forall
    {P : List Char → Prop}
    (hEscape : ∀ cs, P (Percent.escape escapedInUser cs))
    (cs : List Char) :
    P (readUser cs).1 ∧
      ∀ secret ∈ (readUser cs).2, secret ≠ [] ∧ P secret := by
  unfold readUser
  dsimp only
  refine ⟨hEscape _, ?_⟩
  split
  · nofun
  · rename_i hSome
    intro secret hSecret
    cases hSecret
    rw [List.isEmpty_iff] at hSome
    exact ⟨Percent.escape_ne_nil _ hSome, hEscape _⟩

/- So were the query and the fragment. -/
theorem readTail_forall
    {s : Scheme}
    {P Q : List Char → Prop}
    (hQuery : ∀ cs, P (Percent.escape (escapedInQuery s) cs))
    (hFragment : ∀ cs, Q (Percent.escape escapedInFragment cs))
    (cs : List Char) :
    (∀ part ∈ (readTail s cs).1, P part) ∧
      ∀ part ∈ (readTail s cs).2, Q part := by
  unfold readTail
  split
  rename_i query rest hHead
  have hFirst : ∀ part ∈ query, P part := by
    split at hHead
    · cases hHead
      intro part hPart
      cases hPart
      exact hQuery _
    · cases hHead
      nofun
  split
  · refine ⟨hFirst, fun part hPart => ?_⟩
    cases hPart
    exact hFragment _
  · exact ⟨hFirst, nofun⟩

end Url

end UrlShortener

------------------------------------------------------------
-- Paths
------------------------------------------------------------

namespace UrlShortener

namespace Url

theorem leave_subset (done : List (List Char)) :
    leave done ⊆ done := by
  cases done with
  | nil => exact List.Subset.refl _
  | cons part above =>
      rw [leave]
      split
      · exact List.Subset.refl _
      · exact List.subset_cons_self part above

/-
  What holds of the empty part and of all parts that are no
  dots holds of the parts of a path that was walked.
-/
theorem walk_forall
    {P : List Char → Prop}
    {done rest : List (List Char)}
    (hNil : P [])
    (hDone : ∀ part ∈ done, P part)
    (hRest :
      ∀ part ∈ rest, isDoubleDot part = false →
        isSingleDot part = false → P part) :
    ∀ part ∈ walk done rest, P part := by
  have hLeft
      {done : List (List Char)}
      (hDone : ∀ part ∈ done, P part) :
      ∀ part ∈ leave done, P part :=
    fun part hPart => hDone part (leave_subset done hPart)
  have hLast
      {done : List (List Char)}
      {last : List Char}
      (hDone : ∀ part ∈ done, P part)
      (hPart : P last) :
      ∀ part ∈ (last :: done).reverse, P part := by
    intro part hMem
    rw [List.mem_reverse] at hMem
    exact List.forall_mem_cons.mpr ⟨hPart, hDone⟩ part hMem
  fun_induction walk done rest with
  | case1 done =>
      intro part hPart
      exact hDone part (List.mem_reverse.mp hPart)
  | case2 done part hUp =>
      exact hLast (hLeft hDone) hNil
  | case3 done part hUp hDot =>
      exact hLast hDone hNil
  | case4 done part hUp hDot =>
      exact hLast hDone (hRest part List.mem_cons_self
        (Bool.eq_false_iff.mpr hUp) (Bool.eq_false_iff.mpr hDot))
  | case5 done part next rest hUp ih =>
      exact ih (hLeft hDone)
        (List.forall_mem_cons.mp hRest).2
  | case6 done part next rest hUp hDot ih =>
      exact ih hDone (List.forall_mem_cons.mp hRest).2
  | case7 done part next rest hUp hDot ih =>
      rcases List.forall_mem_cons.mp hRest with
        ⟨hPart, hOthers⟩
      have hFirst := hPart (Bool.eq_false_iff.mpr hUp)
        (Bool.eq_false_iff.mpr hDot)
      exact ih (List.forall_mem_cons.mpr ⟨hFirst, hDone⟩)
        hOthers

/- A path leads somewhere. -/
theorem walk_ne_nil
    (done : List (List Char))
    {rest : List (List Char)}
    (hRest : rest ≠ []) : walk done rest ≠ [] := by
  fun_induction walk done rest with
  | case1 done => exact absurd rfl hRest
  | case2 done part hUp => simp
  | case3 done part hUp hDot => simp
  | case4 done part hUp hDot => simp
  | case5 done part next rest hUp ih => exact ih (by simp)
  | case6 done part next rest hUp hDot ih => exact ih (by simp)
  | case7 done part next rest hUp hDot ih => exact ih (by simp)

/- Parts that are no dots are the path that is walked. -/
theorem walk_eq_self
    {done rest : List (List Char)}
    (hRest :
      ∀ part ∈ rest, isDoubleDot part = false ∧
        isSingleDot part = false) :
    walk done rest = done.reverse ++ rest := by
  fun_induction walk done rest with
  | case1 done => exact (List.append_nil _).symm
  | case2 done part hUp =>
      rw [(hRest part List.mem_cons_self).1] at hUp
      cases hUp
  | case3 done part hUp hDot =>
      rw [(hRest part List.mem_cons_self).2] at hDot
      cases hDot
  | case4 done part hUp hDot => exact List.reverse_cons
  | case5 done part next rest hUp ih =>
      rw [(hRest part List.mem_cons_self).1] at hUp
      cases hUp
  | case6 done part next rest hUp hDot ih =>
      rw [(hRest part List.mem_cons_self).2] at hDot
      cases hDot
  | case7 done part next rest hUp hDot ih =>
      rw [ih (List.forall_mem_cons.mp hRest).2,
        List.reverse_cons, List.append_assoc]
      rfl

end Url

end UrlShortener
