import UrlShortener.Proofs.App.Asks
import UrlShortener.Proofs.Text.Cuts
import UrlShortener.Proofs.Text.Escapes

/-
  Which requests look up a code. A path names a code when it
  is a single segment that spells the code, and the code is
  one that a link could have. Just such paths are looked up,
  under the code they name; all others find no link, whatever
  the store holds.

  Key definitions include:
    * `Code.IsName`
    * `Target.Names`
    * `Site.respond`

  Main declarations:
    * `Code.isCandidate_iff`
    * `Target.names_iff_spells`
    * `Request.follows?_eq_some_iff`
    * `Site.only_named_codes_are_looked_up`
-/

------------------------------------------------------------
-- Names Of Links
------------------------------------------------------------

namespace UrlShortener

namespace Code

/- The letters, digits and the two marks of codes. -/
def IsSymbol (c : Char) : Prop :=
  ('A' ≤ c ∧ c ≤ 'Z') ∨ ('a' ≤ c ∧ c ≤ 'z') ∨
    ('0' ≤ c ∧ c ≤ '9') ∨ c = '_' ∨ c = '-'

/-
  A text that could be the code of a link: 1 to 64 symbols
  of codes, and no word the service keeps for itself.
-/
structure IsName (code : String) : Prop where
  length_pos : 1 ≤ code.length
  length_le : code.length ≤ 64
  symbols : ∀ c ∈ code.toList, IsSymbol c
  free : code ∉ ["api", "metrics", "debug", "healthz"]

theorem isCodeChar_iff (c : Char) :
    isCodeChar c = true ↔ IsSymbol c := by
  rw [isCodeChar, Bool.or_eq_true, Bool.or_eq_true,
    Utf8.isAlphanum_iff, beq_iff_eq, beq_iff_eq, IsSymbol]
  simp only [or_assoc]

/- A symbol is ASCII, no blank, and no mark of a path. -/
theorem IsSymbol.plain
    {c : Char}
    (hSymbol : IsSymbol c) :
    c.toNat < 0x80 ∧ c ≠ '%' ∧ c ≠ '/' ∧
      Text.isBlank c = false := by
  have hChar : isCodeChar c = true :=
    (isCodeChar_iff c).mpr hSymbol
  have hAscii : c.toNat < 0x80 := by
    have hKinds := hChar
    simp only [isCodeChar, Bool.or_eq_true, beq_iff_eq]
      at hKinds
    rcases hKinds with (hPlain | rfl) | rfl
    · exact Utf8.ascii_of_isAlphanum hPlain
    · decide
    · decide
  have hMarks :
      isCodeChar c = true →
        c ≠ '%' ∧ c ≠ '/' ∧ Text.isBlank c = false :=
    Utf8.forall_ascii (by decide +kernel) hAscii
  exact ⟨hAscii, hMarks hChar⟩

/- A text of ASCII characters has a byte for each of them. -/
theorem utf8ByteSize_of_ascii
    {cs : List Char}
    (hAscii : Utf8.IsAscii cs) :
    (String.ofList cs).utf8ByteSize = cs.length := by
  induction cs with
  | nil => rfl
  | cons c cs ih =>
      rcases List.forall_mem_cons.mp hAscii with
        ⟨hChar, hRest⟩
      have hOne : c.utf8Size = 1 :=
        Char.utf8Size_eq_one_iff.mpr
          (UInt32.le_iff_toNat_le.mpr (Nat.le_of_lt_succ hChar))
      rw [String.ofList_cons, String.utf8ByteSize_append,
        String.utf8ByteSize_singleton, hOne, ih hRest,
        List.length_cons, Nat.add_comm]

namespace IsName

variable {code : String}

theorem ascii (hName : IsName code) :
    Utf8.IsAscii code.toList :=
  fun c hChar => (hName.symbols c hChar).plain.1

theorem no_percent (hName : IsName code) :
    '%' ∉ code.toList :=
  fun hChar => (hName.symbols '%' hChar).plain.2.1 rfl

theorem no_slash (hName : IsName code) :
    '/' ∉ code.toList :=
  fun hChar => (hName.symbols '/' hChar).plain.2.2.1 rfl

/- A code has a symbol in it. -/
theorem not_blank (hName : IsName code) :
    Text.isBlankText code = false := by
  cases hList : code.toList with
  | nil =>
      have hLength := hName.length_pos
      rw [← String.length_toList, hList] at hLength
      cases hLength
  | cons c cs =>
      have hFirst := hName.symbols c (by simp [hList])
      rw [Text.isBlankText, hList, List.all_cons,
        hFirst.plain.2.2.2, Bool.false_and]

end IsName

/- The candidates are the texts that could be codes. -/
theorem isCandidate_iff (code : String) :
    isCandidate code = true ↔ IsName code := by
  have hSymbols :
      code.toList.all isCodeChar = true ↔
        ∀ c ∈ code.toList, IsSymbol c := by
    rw [List.all_eq_true]
    exact forall₂_congr fun c _ => isCodeChar_iff c
  have hSize
      (hAll : ∀ c ∈ code.toList, IsSymbol c) :
      code.utf8ByteSize = code.length := by
    have hOfList := utf8ByteSize_of_ascii
      fun c hChar => (hAll c hChar).plain.1
    rwa [String.ofList_toList, String.length_toList]
      at hOfList
  have hEmpty :
      (!code.isEmpty) = true ↔ 1 ≤ code.length := by
    rw [Bool.not_eq_true', Bool.eq_false_iff, ne_eq,
      String.isEmpty_iff, ← String.length_eq_zero_iff]
    exact Nat.pos_iff_ne_zero.symm
  have hFree :
      (!isReserved code) = true ↔
        code ∉ ["api", "metrics", "debug", "healthz"] := by
    rw [Bool.not_eq_true', Bool.eq_false_iff, ne_eq,
      isReserved, List.contains_iff_mem]
    exact Iff.rfl
  rw [isCandidate, Bool.and_eq_true, Bool.and_eq_true,
    Bool.and_eq_true, hSymbols, hEmpty, hFree,
    decide_eq_true_eq]
  constructor
  · rintro ⟨⟨⟨hPos, hLe⟩, hWord⟩, hAll⟩
    exact ⟨hPos, hSize hAll ▸ hLe, hAll, hWord⟩
  · rintro ⟨hPos, hLe, hAll, hWord⟩
    exact ⟨⟨⟨hPos, (hSize hAll).symm ▸ hLe⟩, hWord⟩, hAll⟩

end Code

end UrlShortener

------------------------------------------------------------
-- Single Segments
------------------------------------------------------------

namespace UrlShortener

namespace Route

/- A path leads to a code just when it is one free segment. -/
theorem ofPath?_eq_code_iff
    {path segment : List Char} :
    ofPath? path = some (.code segment) ↔
      path = '/' :: segment ∧ '/' ∉ segment ∧
        segment ≠ [] ∧ segment ≠ "healthz".toList := by
  have hSegments :
      ∀ a, Target.segments? path = some [a] ↔
        path = '/' :: a ∧ '/' ∉ a := by
    intro a
    unfold Target.segments?
    split
    · rename_i rest
      rw [Option.some.injEq, Text.split,
        Text.splitWhere_eq_singleton_iff]
      constructor
      · rintro ⟨hNone, rfl⟩
        exact ⟨rfl, fun hSlash =>
          absurd (hNone '/' hSlash) (by decide)⟩
      · rintro ⟨hPath, hNone⟩
        cases hPath
        exact ⟨fun c hChar => beq_eq_false_iff_ne.mpr
          (ne_of_mem_of_not_mem hChar hNone), rfl⟩
    · rename_i hPath
      exact ⟨nofun, fun hSlash =>
        absurd hSlash.1 (hPath a)⟩
  constructor
  · intro hRoute
    unfold ofPath? at hRoute
    split at hRoute
    · rename_i a hOne
      split at hRoute
      · cases hRoute
      · split at hRoute
        · cases hRoute
        · rename_i hEmpty hWord
          cases hRoute
          have hPath := (hSegments segment).mp hOne
          exact ⟨hPath.1, hPath.2,
            mt List.isEmpty_iff.mpr hEmpty, hWord⟩
    · split at hRoute
      · cases hRoute
      · cases hRoute
    · split at hRoute
      · cases hRoute
      · cases hRoute
    · cases hRoute
  · rintro ⟨hPath, hSlash, hEmpty, hWord⟩
    have hOther : segment ≠ healthz := hWord
    rw [ofPath?, (hSegments segment).mpr ⟨hPath, hSlash⟩]
    dsimp only
    rw [if_neg (mt List.isEmpty_iff.mp hEmpty), if_neg hOther]

end Route

end UrlShortener

------------------------------------------------------------
-- Paths That Name A Code
------------------------------------------------------------

namespace UrlShortener

namespace Percent

namespace Spells

variable {segment cs : List Char}

/- The digits of escapes are no slashes. -/
theorem no_slash
    (hSpells : Spells segment cs)
    (hPlain : '/' ∉ cs) : '/' ∉ segment := by
  have hDigit :
      ∀ {c x}, Hex.value? c = some x → '/' ≠ c := by
    rintro c x hValue rfl
    cases hValue
  induction hSpells with
  | nil => exact hPlain
  | plain c hRest ih =>
      rw [List.mem_cons, not_or] at hPlain ⊢
      exact ⟨hPlain.1, ih hPlain.2⟩
  | escaped hHigh hLow hChar hRest ih =>
      simp only [List.mem_cons, not_or] at hPlain ⊢
      exact ⟨by decide, hDigit hHigh, hDigit hLow,
        ih hPlain.2⟩

/- A segment without escapes spells itself alone. -/
theorem eq_of_no_percent
    (hSpells : Spells segment cs)
    (hPlain : '%' ∉ segment) : cs = segment := by
  induction hSpells with
  | nil => rfl
  | plain c hRest ih =>
      exact congrArg _
        (ih (List.not_mem_of_not_mem_cons hPlain))
  | escaped hHigh hLow hChar hRest ih =>
      exact absurd List.mem_cons_self hPlain

end Spells

end Percent

namespace Target

/-
  A path names a code: it is one segment, which is not the
  one of the health probe as it is written, and which is
  read as the code once its escapes are undone.
-/
def Names (path : List Char) (code : String) : Prop :=
  ∃ segment,
    path = '/' :: segment ∧ '/' ∉ segment ∧
      segment ≠ [] ∧ segment ≠ "healthz".toList ∧
      Percent.decode? segment = some code.toList ∧
      Code.IsName code

/-
  A path names a code just when what follows its slash
  spells the code. Nothing that spells a code has a slash in
  it or is the segment of the health probe.
-/
theorem names_iff_spells
    {path : List Char}
    {code : String} :
    Names path code ↔
      Code.IsName code ∧
        ∃ segment, path = '/' :: segment ∧
          Percent.Spells segment code.toList := by
  constructor
  · rintro ⟨segment, hPath, _, _, _, hRead, hName⟩
    exact ⟨hName, segment, hPath,
      (Percent.decode?_eq_some_iff hName.ascii
        hName.no_percent).mp hRead⟩
  · rintro ⟨hName, segment, hPath, hSpells⟩
    refine ⟨segment, hPath, hSpells.no_slash hName.no_slash,
      ?_, ?_,
      (Percent.decode?_eq_some_iff hName.ascii
        hName.no_percent).mpr hSpells, hName⟩
    · rintro rfl
      have hEmpty := hSpells.eq_of_no_percent nofun
      rw [String.toList_eq_nil_iff] at hEmpty
      exact absurd hName.length_pos (by rw [hEmpty]; decide)
    · rintro rfl
      have hWord :=
        String.toList_inj.mp
          (hSpells.eq_of_no_percent (by decide))
      exact absurd hName.free (by rw [hWord]; decide)

/- An escaped spelling of a reserved word names nothing. -/
example : ¬ Names "/%68ealthz".toList "healthz" :=
  fun hNames =>
    absurd (names_iff_spells.mp hNames).1.free (by decide)

end Target

end UrlShortener

------------------------------------------------------------
-- Requests That Resolve
------------------------------------------------------------

namespace UrlShortener

namespace Request

/- A request that only reads. -/
def Reads (r : Request) : Prop :=
  r.method = "GET" ∨ r.method = "HEAD"

/- A request resolves the code that its path names. -/
theorem follows?_eq_some_iff
    {r : Request}
    {path : List Char}
    {code : String} :
    r.follows? path = some code ↔
      r.Reads ∧ Target.Names path code := by
  have hText :
      ∀ segment,
        Site.segmentText? segment = some code ↔
          Percent.decode? segment = some code.toList := by
    intro segment
    rw [Site.segmentText?, Option.map_eq_some_iff]
    constructor
    · rintro ⟨cs, hRead, rfl⟩
      rw [hRead, String.toList_ofList]
    · intro hRead
      exact ⟨code.toList, hRead, String.ofList_toList⟩
  constructor
  · intro hFollows
    unfold follows? at hFollows
    split at hFollows
    · rename_i segment hRoute
      split at hFollows
      · rename_i hReads
        rw [Option.filter_eq_some_iff, hText,
          Code.isCandidate_iff] at hFollows
        have hPath := Route.ofPath?_eq_code_iff.mp hRoute
        exact ⟨hReads, segment, hPath.1, hPath.2.1,
          hPath.2.2.1, hPath.2.2.2, hFollows⟩
      · cases hFollows
    · cases hFollows
  · rintro ⟨hReads, segment, hPath, hSlash, hEmpty, hWord,
      hRead, hName⟩
    have hRoute :=
      Route.ofPath?_eq_code_iff.mpr
        ⟨hPath, hSlash, hEmpty, hWord⟩
    have hMethod : r.method = "GET" ∨ r.method = "HEAD" :=
      hReads
    rw [follows?, hRoute]
    dsimp only
    rw [if_pos hMethod, Option.filter_eq_some_iff, hText,
      Code.isCandidate_iff]
    exact ⟨hRead, hName⟩

end Request

end UrlShortener

------------------------------------------------------------
-- Requests That Find No Link
------------------------------------------------------------

namespace UrlShortener

namespace Site

variable (site : Site) {r : Request} {path : List Char}

/- An answer that leads nowhere else. -/
structure Stays (a : Response) : Prop where
  status : a.status ≠ 302
  location : a.location = none

theorem stays_of_status
    {a : Response}
    (n : Nat)
    (hStatus : a.status = n)
    (hOther : n ≠ 302)
    (hLocation : a.location = none) : Stays a :=
  ⟨fun hLeads => hOther (hStatus.symm.trans hLeads), hLocation⟩

theorem ofFailure_stays (failure : Failure) :
    Stays (.ofFailure failure) := by
  cases failure with
  | invalid => exact stays_of_status 400 rfl (by decide) rfl
  | notFound => exact stays_of_status 404 rfl (by decide) rfl
  | conflict => exact stays_of_status 500 rfl (by decide) rfl
  | exhausted => exact stays_of_status 409 rfl (by decide) rfl
  | internal => exact stays_of_status 500 rfl (by decide) rfl

theorem report_stays (store counter queue : Check) :
    Stays (Health.response store counter queue) := by
  have hStatus :
      ∀ healthy : Bool,
        (if healthy then 200 else 503) ≠ 302 := by decide
  exact stays_of_status _ rfl (hStatus _) rfl

/- An answer without its body leads to the same place. -/
theorem reading_stays
    (r : Request)
    {d : Dialogue Response}
    (hStays : d.Closes (fun _ => Stays) []) :
    (reading r d).Closes (fun _ => Stays) [] := by
  unfold reading
  split
  · exact hStays
  · split
    · exact hStays.map fun _ _ hAnswer =>
        ⟨hAnswer.status, hAnswer.location⟩
    · exact stays_of_status 405 rfl (by decide) rfl

theorem follow_stays
    {segment : List Char}
    (hNone :
      (segmentText? segment).filter Code.isCandidate = none) :
    (site.follow segment).Closes (fun _ => Stays) [] := by
  have hMissing : Stays noSuchLink :=
    stays_of_status 404 rfl (by decide) rfl
  unfold follow
  cases hText : segmentText? segment with
  | none => exact hMissing
  | some code =>
      rw [hText, Option.filter_eq_none_iff] at hNone
      dsimp only
      rw [if_neg (hNone code rfl)]
      exact hMissing

/- A request that resolves no code is never redirected. -/
theorem answer_stays
    (hFollows : r.follows? path = none) :
    (site.answer r path).Closes (fun _ => Stays) [] := by
  unfold Request.follows? at hFollows
  unfold answer
  cases hRoute : Route.ofPath? path with
  | none =>
      dsimp only
      unfold unrouted
      split
      · exact stays_of_status 404 rfl (by decide) rfl
      · exact stays_of_status 404 rfl (by decide) rfl
  | some route =>
      cases route with
      | health =>
          apply reading_stays
          exact fun _ _ _ => report_stays _ _ _
      | links =>
          dsimp only
          split
          · unfold create
            split
            · exact ofFailure_stays _
            · refine Dialogue.closes_map fun _ result _ => ?_
              cases result with
              | ok link =>
                  exact stays_of_status 201 rfl (by decide) rfl
              | error failure => exact ofFailure_stays failure
          · exact stays_of_status 405 rfl (by decide) rfl
      | stats segment =>
          apply reading_stays
          unfold stats
          split
          · exact stays_of_status 200 rfl (by decide) rfl
          · refine Dialogue.closes_map fun _ result _ => ?_
            cases result with
            | ok n =>
                exact stays_of_status 200 rfl (by decide) rfl
            | error failure => exact ofFailure_stays failure
      | code segment =>
          rw [hRoute] at hFollows
          dsimp only at hFollows ⊢
          unfold reading
          by_cases hGet : r.method = "GET"
          · rw [if_pos (Or.inl hGet)] at hFollows
            rw [if_pos hGet]
            exact site.follow_stays hFollows
          · rw [if_neg hGet]
            by_cases hHead : r.method = "HEAD"
            · rw [if_pos (Or.inr hHead)] at hFollows
              rw [if_pos hHead]
              exact (site.follow_stays hFollows).map
                fun _ _ hAnswer =>
                  ⟨hAnswer.status, hAnswer.location⟩
            · rw [if_neg hHead]
              exact stays_of_status 405 rfl (by decide) rfl

end Site

end UrlShortener

------------------------------------------------------------
-- Look-Ups Of Requests
------------------------------------------------------------

namespace UrlShortener

namespace Site

/- The path of a request, trimmed or as it is. -/
def seen (trims : Bool) (r : Request) : List Char :=
  if trims then Target.trimmed (Target.path r.target)
  else Target.path r.target

/- Answer a request, with its path trimmed or as it is. -/
def respond
    (site : Site)
    (trims : Bool)
    (r : Request) : Dialogue Response :=
  if trims then site.serveTrimmed r else site.serve r

theorem respond_eq
    (site : Site)
    (trims : Bool)
    (r : Request) :
    site.respond trims r = site.answer r (seen trims r) := by
  cases trims with
  | true => rfl
  | false => rfl

variable {r : Request} {path : List Char}
variable {w : Surroundings}

/- The code that a request resolves is looked up. -/
theorem lookUps_of_follows
    (site : Site)
    {code : String}
    (hFollows : r.follows? path = some code)
    (s : App) : (site.answer r path).lookUps w s = [code] := by
  have hName : Code.IsName code := by
    rcases Request.follows?_eq_some_iff.mp hFollows with
      ⟨_, _, _, _, _, _, _, hName⟩
    exact hName
  rcases site.answer_of_follows hFollows with ⟨f, hAnswer⟩
  rw [hAnswer, Dialogue.lookUps_map]
  exact Shortener.lookUps_resolve _ hName.not_blank s

/- A request that resolves no code looks up none. -/
theorem asks_of_not_follows
    (site : Site)
    (hFollows : r.follows? path = none)
    (s : App) :
    (site.answer r path).lookUps w s = [] ∧
      ∀ code, .visit code ∉ (site.answer r path).asks w s := by
  have hElsewhere := site.answer_elsewhere hFollows
  constructor
  · apply Dialogue.lookUps_eq_nil
    refine hElsewhere.mono ?_
    intro a hAsk
    cases a with
    | find code => exact hAsk.elim
    | _ => rfl
  · intro code hVisit
    exact hElsewhere.asks s _ hVisit

/- What a resolution of a code is answered. -/
def resolved : Except Failure Link → Response
| .ok link => redirectTo link
| .error failure => .ofFailure failure

/- A path that names a code is answered by its resolution. -/
theorem answer_of_names
    (site : Site)
    {code : String}
    (hNames : Target.Names path code) :
    site.answer r path =
      reading r
        ((Shortener.resolve site.policy code).map resolved) := by
  rcases hNames with
    ⟨segment, hPath, hSlash, hEmpty, hWord, hRead, hName⟩
  have hText : segmentText? segment = some code := by
    rw [segmentText?, hRead, Option.map_some,
      String.ofList_toList]
  have hRoute :=
    Route.ofPath?_eq_code_iff.mpr
      ⟨hPath, hSlash, hEmpty, hWord⟩
  rw [answer, hRoute]
  dsimp only
  rw [follow, hText]
  dsimp only
  rw [if_pos ((Code.isCandidate_iff code).mpr hName)]
  rfl

/-
  Just the requests whose path names a code look one up, and
  it is that code. However the code is spelled, the answer
  is the same. All other requests look up nothing, queue no
  visit and are never redirected, whatever the store holds.
-/
theorem only_named_codes_are_looked_up
    (site : Site)
    (trims : Bool)
    (r : Request)
    (w : Surroundings)
    (s : App) :
    (∀ code,
      (site.respond trims r).lookUps w s = [code] ↔
        r.Reads ∧ Target.Names (seen trims r) code) ∧
    (∀ trims' r' code,
      r'.method = r.method →
      Target.Names (seen trims r) code →
      Target.Names (seen trims' r') code →
        site.respond trims' r' = site.respond trims r) ∧
    ((∀ code,
        ¬ (r.Reads ∧ Target.Names (seen trims r) code)) →
      let answered := (site.respond trims r).run w s
      (site.respond trims r).lookUps w s = [] ∧
      (∀ code,
        .visit code ∉ (site.respond trims r).asks w s) ∧
      answered.1.status ≠ 302 ∧
      answered.2.queue = s.queue) := by
  have hNone
      (hOther : ∀ code,
        ¬ (r.Reads ∧ Target.Names (seen trims r) code)) :
      r.follows? (seen trims r) = none := by
    rw [Option.eq_none_iff_forall_ne_some]
    intro code hFollows
    exact hOther code
      (Request.follows?_eq_some_iff.mp hFollows)
  refine ⟨?_, ?_, ?_⟩
  · intro code
    rw [respond_eq, ← Request.follows?_eq_some_iff]
    constructor
    · intro hLooks
      cases hFollows : r.follows? (seen trims r) with
      | none =>
          rw [(site.asks_of_not_follows hFollows s).1] at hLooks
          cases hLooks
      | some other =>
          rw [site.lookUps_of_follows hFollows s] at hLooks
          cases hLooks
          rfl
    · intro hFollows
      exact site.lookUps_of_follows hFollows s
  · intro trims' r' code hMethod hName hName'
    rw [respond_eq, respond_eq, site.answer_of_names hName,
      site.answer_of_names hName', reading, reading, hMethod]
  · intro hOther
    have hFollows := hNone hOther
    have hAsks := site.asks_of_not_follows (w := w) hFollows s
    rw [respond_eq]
    exact ⟨hAsks.1, hAsks.2,
      ((site.answer_stays hFollows).run s).status,
      (Dialogue.run_quiet (site.answer_quiet hFollows)).queue⟩

theorem sample_spellings_are_looked_up :
    let site : Site := ⟨.usual, 1000⟩
    let w : Surroundings := ⟨fun n => ⟨0, n, 0⟩, fun _ _ => 0⟩
    let s := App.init (.listed []) 1
    let plain : Request := ⟨"GET", "//abc/?q=1", [], []⟩
    let escaped : Request := ⟨"GET", "/%61bc", [], []⟩
    let word : Request := ⟨"GET", "/%68ealthz", [], []⟩
    (site.respond true plain).lookUps w s = ["abc"] ∧
      site.respond false escaped = site.respond true plain ∧
      (site.respond false word).lookUps w s = [] := by
  intro site w s plain escaped word
  have hName : Code.IsName "abc" :=
    (Code.isCandidate_iff "abc").mp (by decide)
  have hPlain : Target.Names (seen true plain) "abc" :=
    Target.names_iff_spells.mpr
      ⟨hName, "abc".toList, by decide,
        .plain 'a' (.plain 'b' (.plain 'c' .nil))⟩
  have hEscaped : Target.Names (seen false escaped) "abc" :=
    Target.names_iff_spells.mpr
      ⟨hName, "%61bc".toList, by decide,
        .escaped rfl rfl rfl (.plain 'b' (.plain 'c' .nil))⟩
  have hWord :
      ∀ code, ¬ (word.Reads ∧
        Target.Names (seen false word) code) := by
    rintro code ⟨_, segment, hPath, _, _, _, hRead, hName⟩
    have hSegment : segment = "%68ealthz".toList := by
      have hSeen : seen false word = "/%68ealthz".toList := by
        decide
      rw [hSeen] at hPath
      exact (List.cons.inj hPath).2.symm
    have hText :
        Percent.decode? "%68ealthz".toList =
          some "healthz".toList := by decide +kernel
    rw [hSegment, hText, Option.some.injEq, String.toList_inj]
      at hRead
    exact absurd hName.free (by rw [← hRead]; decide)
  have hFirst :=
    only_named_codes_are_looked_up site true plain w s
  have hSecond :=
    only_named_codes_are_looked_up site false word w s
  exact ⟨(hFirst.1 "abc").mpr ⟨Or.inl rfl, hPlain⟩,
    hFirst.2.1 false escaped "abc" rfl hPlain hEscaped,
    (hSecond.2.2 hWord).1⟩

end Site

end UrlShortener
