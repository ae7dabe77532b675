import UrlShortener.Proofs.Json.Strings
import UrlShortener.Proofs.Number.Printed
import UrlShortener.Proofs.Text.Cuts

/-
  Values that are skipped. However deep a value is, what is
  printed of it is skipped as a whole, with at most one step
  for each of its bytes.

  Key definitions include:
    * `Json.bytes`
    * `Json.joined`
    * `Json.Skips`

  Main declarations:
    * `Json.bytes_list`
    * `Json.bytes_record`
    * `Json.bytes_eq_cons`
    * `Json.skips_bytes`
    * `Json.skipValue_bytes`
-/

------------------------------------------------------------
-- Bytes Of Values
------------------------------------------------------------

namespace UrlShortener

namespace Json

/- What holds of all values if it holds of what is inside. -/
@[elab_as_elim]
theorem inside_induction
    {P : Json → Prop}
    (hNull : P .null)
    (hFlag : ∀ flag, P (.flag flag))
    (hNumber : ∀ n, P (.number n))
    (hText : ∀ s, P (.text s))
    (hList : ∀ items, (∀ item ∈ items, P item) → P (.list items))
    (hRecord :
      ∀ fields, (∀ field ∈ fields, P field.2) →
        P (.record fields)) :
    ∀ v, P v := by
  refine @Json.rec P (fun items => ∀ item ∈ items, P item)
    (fun fields => ∀ field ∈ fields, P field.2)
    (fun field => P field.2) hNull hFlag hNumber hText hList
    hRecord nofun ?_ nofun ?_ ?_
  · intro item items hItem hItems
    exact List.forall_mem_cons.mpr ⟨hItem, hItems⟩
  · intro field fields hField hFields
    exact List.forall_mem_cons.mpr ⟨hField, hFields⟩
  · exact fun _ _ hValue => hValue

/- The bytes of a value. -/
def bytes (v : Json) : List UInt8 := Utf8.encode v.chars

theorem bytes_print (v : Json) : Utf8.bytes v.print = v.bytes := by
  rw [Utf8.bytes_eq_encode, print, String.toList_ofList, bytes]

/- The bytes of a field: its quoted name, a colon, its value. -/
def fieldBytes (field : String × Json) : List UInt8 :=
  0x22 :: (behindQuote field.1 ++ 0x3A :: field.2.bytes)

/- Bytes of several things, with commas between them. -/
def joined : List (List UInt8) → List UInt8
| [] => []
| first :: rest => first ++ rest.flatMap fun more => 0x2C :: more

theorem encode_quoted (s : String) :
    Utf8.encode (quoted s) = 0x22 :: behindQuote s := by
  rw [quoted, List.cons_append,
    Utf8.encode_cons_of_ascii (by decide), Utf8.encode_append]
  rfl

theorem bytes_text (s : String) :
    (text s).bytes = 0x22 :: behindQuote s := by
  rw [bytes, chars, encode_quoted]

theorem joined_cons_cons
    (first second : List UInt8)
    (rest : List (List UInt8)) :
    joined (first :: second :: rest) =
      first ++ 0x2C :: joined (second :: rest) := by
  simp only [joined, List.flatMap_cons, List.cons_append]

theorem encode_itemChars (items : List Json) :
    Utf8.encode (itemChars items) = joined (items.map bytes) := by
  induction items with
  | nil => rfl
  | cons item items ih =>
      cases items with
      | nil =>
          rw [itemChars]
          exact (List.append_nil _).symm
      | cons next items =>
          rw [itemChars, Utf8.encode_append,
            Utf8.encode_cons_of_ascii (by decide), ih]
          · exact (joined_cons_cons _ _ _).symm
          · exact nofun

theorem encode_fieldChars (fields : List (String × Json)) :
    Utf8.encode (fieldChars fields) =
      joined (fields.map fieldBytes) := by
  have hField
      (name : String)
      (v : Json) :
      Utf8.encode (quoted name ++ ':' :: v.chars) =
        fieldBytes (name, v) := by
    rw [Utf8.encode_append, encode_quoted,
      Utf8.encode_cons_of_ascii (by decide)]
    rfl
  induction fields with
  | nil => rfl
  | cons field fields ih =>
      rcases field with ⟨name, v⟩
      cases fields with
      | nil =>
          rw [fieldChars, hField]
          exact (List.append_nil _).symm
      | cons next fields =>
          rw [fieldChars, Utf8.encode_append, hField,
            Utf8.encode_cons_of_ascii (by decide), ih]
          · exact (joined_cons_cons _ _ _).symm
          · exact nofun

theorem bytes_list (items : List Json) :
    (list items).bytes =
      0x5B :: (joined (items.map bytes) ++ [0x5D]) := by
  rw [bytes, chars, List.cons_append,
    Utf8.encode_cons_of_ascii (by decide), Utf8.encode_append,
    encode_itemChars]
  rfl

theorem bytes_record (fields : List (String × Json)) :
    (record fields).bytes =
      0x7B :: (joined (fields.map fieldBytes) ++ [0x7D]) := by
  rw [bytes, chars, List.cons_append,
    Utf8.encode_cons_of_ascii (by decide), Utf8.encode_append,
    encode_fieldChars]
  rfl

/- Of digits, all can be tried. -/
@[elab_as_elim]
theorem forall_digit
    {P : Char → Prop}
    (hTried :
      ∀ n < 0x80, (Char.ofNat n).isDigit = true →
        P (Char.ofNat n))
    {c : Char}
    (hDigit : c.isDigit = true) : P c := by
  have hAscii := Utf8.ascii_of_isDigit hDigit
  have hChar := hTried c.toNat hAscii
  rw [Char.ofNat_toNat] at hChar
  exact hChar hDigit

/- A byte that the bytes of a value begin with. -/
structure Opens (v : Json) (b : UInt8) : Prop where
  not_blank : isSpace b = false
  not_closing : b ≠ 0x5D ∧ b ≠ 0x7D
  null : b = 0x6E → v = .null
  text : b = 0x22 → ∃ s, v = .text s
  list : b = 0x5B → ∃ items, v = .list items
  record : b = 0x7B → ∃ fields, v = .record fields

/- The bytes of a whole number. -/
theorem bytes_number (n : Int) :
    ∃ m : Nat,
      (number n).bytes = Utf8.encode (Nat.toDigits 10 m) ∨
        (number n).bytes =
          0x2D :: Utf8.encode (Nat.toDigits 10 m) := by
  cases n with
  | ofNat m =>
      refine ⟨m, .inl ?_⟩
      rw [← Nat.toList_repr]
      rfl
  | negSucc m =>
      refine ⟨m + 1, .inr ?_⟩
      have hChars :
          (toString (Int.negSucc m)).toList =
            '-' :: Nat.toDigits 10 (m + 1) := by
        rw [← Nat.toList_repr]
        change ("-" ++ _).toList = _
        rw [String.toList_append]
        rfl
      rw [bytes, chars, hChars,
        Utf8.encode_cons_of_ascii (by decide)]
      rfl

theorem encode_digits_eq_cons (m : Nat) :
    ∃ c rest, Nat.toDigits 10 m = c :: rest ∧
      c.isDigit = true ∧
      Utf8.encode (Nat.toDigits 10 m) =
        Utf8.byte c :: Utf8.encode rest := by
  rcases List.exists_cons_of_ne_nil
      (Nat.toDigits_ne_nil (n := m) (b := 10)) with
    ⟨c, rest, hDigits⟩
  have hDigit : c.isDigit = true :=
    Nat.isDigit_of_mem_toDigits (by decide) (by decide)
      (hDigits ▸ List.mem_cons_self)
  refine ⟨c, rest, hDigits, hDigit, ?_⟩
  rw [hDigits, Utf8.encode_cons_of_ascii
    (Utf8.ascii_of_isDigit hDigit)]

/- The first byte of a value tells what the value is. -/
theorem bytes_eq_cons (v : Json) :
    ∃ b more, v.bytes = b :: more ∧ v.Opens b := by
  have hOther
      {v : Json}
      {b : UInt8}
      (hMarks :
        isSpace b = false ∧
          b ∉ [0x22, 0x5B, 0x5D, 0x6E, 0x7B, 0x7D]) :
      v.Opens b := by
    rcases hMarks with ⟨hBlank, hNone⟩
    simp only [List.mem_cons, List.not_mem_nil, or_false,
      not_or] at hNone
    rcases hNone with ⟨hQuote, hList, hEndList, hNull, hRecord,
      hEndRecord⟩
    exact ⟨hBlank, ⟨hEndList, hEndRecord⟩,
      fun hSame => absurd hSame hNull,
      fun hSame => absurd hSame hQuote,
      fun hSame => absurd hSame hList,
      fun hSame => absurd hSame hRecord⟩
  cases v with
  | null =>
      exact ⟨0x6E, [0x75, 0x6C, 0x6C], by decide, by decide,
        by decide, fun _ => rfl, nofun, nofun, nofun⟩
  | flag flag =>
      cases flag with
      | true =>
          exact ⟨0x74, [0x72, 0x75, 0x65], by decide,
            hOther (by decide)⟩
      | false =>
          exact ⟨0x66, [0x61, 0x6C, 0x73, 0x65], by decide,
            hOther (by decide)⟩
  | number n =>
      rcases bytes_number n with ⟨m, hDigits | hNegative⟩
      · rcases encode_digits_eq_cons m with
          ⟨c, rest, _, hDigit, hBytes⟩
        refine ⟨_, _, hDigits.trans hBytes, hOther ?_⟩
        refine forall_digit ?_ hDigit
        decide
      · exact ⟨0x2D, _, hNegative, hOther (by decide)⟩
  | text s =>
      exact ⟨0x22, _, bytes_text s, by decide, by decide,
        nofun, fun _ => ⟨s, rfl⟩, nofun, nofun⟩
  | list items =>
      exact ⟨0x5B, _, bytes_list items, by decide, by decide,
        nofun, nofun, fun _ => ⟨items, rfl⟩, nofun⟩
  | record fields =>
      exact ⟨0x7B, _, bytes_record fields, by decide,
        by decide, nofun, nofun, nofun,
        fun _ => ⟨fields, rfl⟩⟩

end Json

end UrlShortener

------------------------------------------------------------
-- Skipped Scalars
------------------------------------------------------------

namespace UrlShortener

namespace Json

/- What may stand behind a value: a comma or a bracket. -/
def Delimited (rest : List UInt8) : Prop :=
  ∀ b ∈ rest.head?, b = 0x2C ∨ b = 0x5D ∨ b = 0x7D

/- Skipping, from where the values that ended are closed. -/
def goOn
    (fuel : Nat)
    (closed : Except Fault (List Frame × List UInt8)) :
    Except Fault (List UInt8) :=
  match closed with
  | .error f => .error f
  | .ok ([], rest) => .ok rest
  | .ok (.list :: outer, rest) =>
      skipInside fuel (.list :: outer) rest
  | .ok (.object :: outer, rest) =>
      match skipKey rest with
      | .error f => .error f
      | .ok rest => skipInside fuel (.object :: outer) rest

/-
  Bytes that are skipped as a value, in no more steps than
  there are bytes.
-/
def Skips (body : List UInt8) : Prop :=
  ∃ steps, steps ≤ body.length ∧
    ∀ fuel frames rest, Delimited rest →
      skipInside (fuel + steps) frames (body ++ rest) =
        goOn fuel (closeFrames true frames rest)

variable {body rest : List UInt8} {fuel : Nat}
variable {frame : Frame} {frames : List Frame}

theorem skipBlanks_cons
    {b : UInt8}
    (hBlank : isSpace b = false) :
    skipBlanks (b :: rest) = b :: rest :=
  List.dropWhile_cons_of_neg (Bool.eq_false_iff.mp hBlank)

theorem skipInside_finished
    (hStart : skipStart body = .ok (.finished rest)) :
    skipInside (fuel + 1) frames body =
      goOn fuel (closeFrames true frames rest) := by
  rw [skipInside, hStart]
  rfl

theorem skipInside_opened
    (hStart : skipStart body = .ok (.opened frame rest)) :
    skipInside (fuel + 1) frames body =
      goOn fuel (closeFrames false (frame :: frames) rest) := by
  rw [skipInside, hStart]
  rfl

/- A scalar is skipped at once. -/
theorem skips_of_finished
    (hSome : body ≠ [])
    (hStart :
      ∀ rest, Delimited rest →
        skipStart (body ++ rest) = .ok (.finished rest)) :
    Skips body :=
  ⟨1, List.length_pos_of_ne_nil hSome,
    fun _ _ rest hRest => skipInside_finished (hStart rest hRest)⟩

theorem skipTail_delimited
    (hRest : Delimited rest) : skipTail rest = .ok rest := by
  cases rest with
  | nil => rfl
  | cons b rest =>
      rcases hRest b rfl with rfl | rfl | rfl
      · rfl
      · rfl
      · rfl

/- The bytes of digits are digits. -/
theorem isDigit_of_mem_encode
    {cs : List Char}
    (hDigits : ∀ c ∈ cs, c.isDigit = true) :
    ∀ b ∈ Utf8.encode cs, isDigit b = true := by
  have hDigit
      {c : Char}
      (hChar : c.isDigit = true) :
      isDigit (Utf8.byte c) = true := by
    refine forall_digit ?_ hChar
    decide
  induction cs with
  | nil => exact nofun
  | cons c cs ih =>
      rcases List.forall_mem_cons.mp hDigits with ⟨hFirst, hAll⟩
      rw [Utf8.encode_cons_of_ascii
        (Utf8.ascii_of_isDigit hFirst)]
      exact List.forall_mem_cons.mpr ⟨hDigit hFirst, ih hAll⟩

/- Digits without zeros in front are skipped. -/
theorem skipNumeral_digits
    (m : Nat)
    (hRest : Delimited rest) :
    skipNumeral (Utf8.encode (Nat.toDigits 10 m) ++ rest) =
      .ok rest := by
  rcases Nat.eq_zero_or_pos m with rfl | hPos
  · change skipNumeral (0x30 :: rest) = .ok rest
    cases rest with
    | nil => rfl
    | cons b rest =>
        rcases hRest b rfl with rfl | rfl | rfl
        · rfl
        · rfl
        · rfl
  · rcases toDigits_eq_cons hPos with
      ⟨c, more, hDigits, hNotZero⟩
    have hAll : ∀ c ∈ Nat.toDigits 10 m, c.isDigit = true :=
      fun c hMem =>
        Nat.isDigit_of_mem_toDigits (by decide) (by decide) hMem
    rw [hDigits] at hAll ⊢
    rcases List.forall_mem_cons.mp hAll with ⟨hFirst, hMore⟩
    have hBytes := isDigit_of_mem_encode hAll
    have hEnd : rest.dropWhile isDigit = rest := by
      refine Text.dropWhile_eq_self ?_
      intro b hHead
      rcases hRest b hHead with rfl | rfl | rfl
      · rfl
      · rfl
      · rfl
    rw [Utf8.encode_cons_of_ascii
      (Utf8.ascii_of_isDigit hFirst)] at hBytes ⊢
    have hByte : Utf8.byte c ≠ 0x30 := by
      intro hZero
      exact hNotZero (Percent.byte_inj
        (Utf8.ascii_of_isDigit hFirst) (by decide) hZero)
    rw [List.cons_append, skipNumeral.eq_def]
    dsimp only
    rw [if_neg hByte, if_pos (hBytes _ List.mem_cons_self),
      List.dropWhile_append_of_pos
        (isDigit_of_mem_encode hMore), hEnd,
      skipTail_delimited hRest]

theorem skips_number (n : Int) : Skips (number n).bytes := by
  have hMarks
      {c : Char}
      (hDigit : c.isDigit = true) :
      isSpace (Utf8.byte c) = false ∧ Utf8.byte c ≠ 0x6E ∧
        Utf8.byte c ≠ 0x74 ∧ Utf8.byte c ≠ 0x66 ∧
        Utf8.byte c ≠ 0x2D ∧ isDigit (Utf8.byte c) = true := by
    refine forall_digit ?_ hDigit
    decide
  rcases bytes_number n with ⟨m, hBytes | hBytes⟩
  · rcases encode_digits_eq_cons m with
      ⟨c, more, _, hDigit, hCons⟩
    rcases hMarks hDigit with
      ⟨hBlank, hNull, hTrue, hFalse, hSign, hFirst⟩
    rw [hBytes]
    refine skips_of_finished ?_ ?_
    · rw [hCons]
      exact nofun
    · intro rest hRest
      have hSkip := skipNumeral_digits m hRest
      rw [hCons, List.cons_append] at hSkip ⊢
      rw [skipStart, skipBlanks_cons hBlank]
      dsimp only
      rw [if_neg hNull, if_neg hTrue, if_neg hFalse,
        if_neg hSign, if_pos hFirst, hSkip]
      rfl
  · rw [hBytes]
    refine skips_of_finished nofun ?_
    intro rest hRest
    rw [List.cons_append]
    change (skipNumeral _).map Skip.finished = _
    rw [skipNumeral_digits m hRest]
    rfl

theorem skips_text (s : String) : Skips (text s).bytes := by
  refine skips_of_finished ?_ ?_
  · rw [bytes_text]
    exact nofun
  · intro rest _
    rw [bytes_text, List.cons_append]
    change (skipString _ _).map Skip.finished = _
    rw [skipString_behindQuote]
    rfl

end Json

end UrlShortener

------------------------------------------------------------
-- Skipped Lists And Records
------------------------------------------------------------

namespace UrlShortener

namespace Json

namespace Frame

/- The bracket that closes a frame. -/
def closing : Frame → UInt8
| .list => 0x5D
| .object => 0x7D

end Frame

variable {entry rest : List UInt8} {entries : List (List UInt8)}
variable {frame : Frame} {frames : List Frame}

theorem closeFrames_closing
    (comma : Bool) :
    closeFrames comma (frame :: frames) (frame.closing :: rest) =
      closeFrames true frames rest := by
  cases frame with
  | list => cases comma <;> rfl
  | object => cases comma <;> rfl

theorem closeFrames_comma :
    closeFrames true (frame :: frames) (0x2C :: rest) =
      .ok (frame :: frames, rest) := by
  cases frame with
  | list => rfl
  | object => rfl

/- What is neither blank nor closes a frame is left there. -/
theorem closeFrames_begins
    {b : UInt8}
    (hBlank : isSpace b = false)
    (hOther : b ≠ frame.closing) :
    closeFrames false (frame :: frames) (b :: rest) =
      .ok (frame :: frames, b :: rest) := by
  cases frame with
  | list =>
      have hBracket : b ≠ 0x5D := hOther
      rw [closeFrames, skipBlanks_cons hBlank]
      simp [hBracket]
  | object =>
      have hBracket : b ≠ 0x7D := hOther
      rw [closeFrames, skipBlanks_cons hBlank]
      simp [hBracket]

/-
  An entry of a frame is skipped, and does not begin with a
  blank or a closing bracket.
-/
structure SkipsIn (frame : Frame) (entry : List UInt8) : Prop where
  begins :
    ∃ b more, entry = b :: more ∧ isSpace b = false ∧
      b ≠ frame.closing
  skips :
    ∃ steps, steps ≤ entry.length ∧
      ∀ fuel frames rest, Delimited rest →
        goOn (fuel + steps)
            (.ok (frame :: frames, entry ++ rest)) =
          goOn fuel (closeFrames true (frame :: frames) rest)

/- Entries may stand behind each other, or a bracket may. -/
theorem delimited_entries :
    Delimited
      (entries.flatMap (fun more => 0x2C :: more) ++
        frame.closing :: rest) := by
  intro b hHead
  cases entries with
  | nil =>
      cases hHead
      cases frame with
      | list => exact .inr (.inl rfl)
      | object => exact .inr (.inr rfl)
  | cons entry entries =>
      cases hHead
      exact .inl rfl

/- Further entries are skipped, with their bracket. -/
theorem skips_more
    (hEntries : ∀ entry ∈ entries, SkipsIn frame entry) :
    let more := entries.flatMap fun more => 0x2C :: more
    ∃ steps, steps ≤ more.length ∧
      ∀ fuel frames rest,
        goOn (fuel + steps)
            (closeFrames true (frame :: frames)
              (more ++ frame.closing :: rest)) =
          goOn fuel (closeFrames true frames rest) := by
  induction entries with
  | nil =>
      refine ⟨0, Nat.le_refl 0, ?_⟩
      intro fuel frames rest
      exact congrArg (goOn fuel) (closeFrames_closing true)
  | cons entry entries ih =>
      rcases List.forall_mem_cons.mp hEntries with
        ⟨hFirst, hAll⟩
      rcases hFirst.skips with ⟨m, hSteps, hSkip⟩
      rcases ih hAll with ⟨n, hLater, hMore⟩
      refine ⟨n + m, ?_, ?_⟩
      · rw [List.flatMap_cons, List.length_append,
          List.length_cons]
        omega
      · intro fuel frames rest
        rw [List.flatMap_cons, List.cons_append,
          List.cons_append, List.append_assoc,
          closeFrames_comma, ← Nat.add_assoc,
          hSkip _ _ _ delimited_entries, hMore]

/- A frame with entries is skipped as a whole. -/
theorem skips_frame
    {b : UInt8}
    (frame : Frame)
    (hOpens :
      ∀ rest, skipStart (b :: rest) = .ok (.opened frame rest))
    (hEntries : ∀ entry ∈ entries, SkipsIn frame entry) :
    Skips (b :: (joined entries ++ [frame.closing])) := by
  cases entries with
  | nil =>
      refine ⟨1, Nat.le_add_left 1 1, ?_⟩
      intro fuel frames rest _
      rw [List.cons_append, skipInside_opened (hOpens _)]
      exact congrArg (goOn fuel) (closeFrames_closing false)
  | cons entry entries =>
      rcases List.forall_mem_cons.mp hEntries with
        ⟨hFirst, hAll⟩
      rcases hFirst.skips with ⟨m, hSteps, hSkip⟩
      rcases skips_more hAll with ⟨n, hLater, hMore⟩
      rcases hFirst.begins with
        ⟨first, others, hCons, hBlank, hOther⟩
      have hEnter
          (frames : List Frame)
          (rest : List UInt8) :
          closeFrames false (frame :: frames) (entry ++ rest) =
            .ok (frame :: frames, entry ++ rest) := by
        rw [hCons, List.cons_append]
        exact closeFrames_begins hBlank hOther
      refine ⟨n + m + 1, ?_, ?_⟩
      · simp only [joined, List.length_cons, List.length_append]
        omega
      · intro fuel frames rest _
        simp only [joined, List.cons_append, List.append_assoc,
          List.nil_append]
        rw [← Nat.add_assoc, ← Nat.add_assoc,
          skipInside_opened (hOpens _), hEnter,
          hSkip _ _ _ delimited_entries, hMore]

/- A value is an entry of a list. -/
theorem skipsIn_list
    {v : Json}
    (hValue : Skips v.bytes) : SkipsIn .list v.bytes := by
  constructor
  · rcases bytes_eq_cons v with ⟨b, more, hBytes, hOpens⟩
    exact ⟨b, more, hBytes, hOpens.not_blank,
      hOpens.not_closing.1⟩
  · rcases hValue with ⟨steps, hSteps, hSkip⟩
    exact ⟨steps, hSteps,
      fun fuel frames rest => hSkip fuel (.list :: frames) rest⟩

/- A field is an entry of an object. -/
theorem skipsIn_object
    {field : String × Json}
    (hValue : Skips field.2.bytes) :
    SkipsIn .object (fieldBytes field) := by
  constructor
  · exact ⟨0x22, _, rfl, by decide, by decide⟩
  · rcases hValue with ⟨steps, hSteps, hSkip⟩
    refine ⟨steps, ?_, ?_⟩
    · simp only [fieldBytes, List.length_cons,
        List.length_append]
      omega
    · intro fuel frames rest hRest
      have hKey :
          skipKey (fieldBytes field ++ rest) =
            .ok (field.2.bytes ++ rest) := by
        have hName :=
          skipString_behindQuote field.1
            (0x3A :: (field.2.bytes ++ rest))
        rw [fieldBytes, List.cons_append, List.append_assoc,
          List.cons_append]
        change (skipString _ _ >>= _) = _
        rw [hName]
        rfl
      rw [goOn, hKey]
      exact hSkip fuel (.object :: frames) rest hRest

/- A value is skipped, however deep it is. -/
theorem skips_bytes (v : Json) : Skips v.bytes := by
  induction v using inside_induction with
  | hNull => exact skips_of_finished nofun fun _ _ => rfl
  | hFlag flag =>
      cases flag with
      | true => exact skips_of_finished nofun fun _ _ => rfl
      | false => exact skips_of_finished nofun fun _ _ => rfl
  | hNumber n => exact skips_number n
  | hText s => exact skips_text s
  | hList items ih =>
      rw [bytes_list]
      refine skips_frame .list (fun _ => rfl) ?_
      rw [List.forall_mem_map]
      exact fun item hMem => skipsIn_list (ih item hMem)
  | hRecord fields ih =>
      rw [bytes_record]
      refine skips_frame .object (fun _ => rfl) ?_
      rw [List.forall_mem_map]
      exact fun field hMem => skipsIn_object (ih field hMem)

/- A value is skipped with its bytes as fuel. -/
theorem skipValue_bytes
    {v : Json}
    {fuel : Nat}
    (hFuel : v.bytes.length ≤ fuel)
    (hRest : Delimited rest) :
    skipValue fuel (v.bytes ++ rest) = .ok rest := by
  rcases skips_bytes v with ⟨steps, hSteps, hSkip⟩
  have hSplit : fuel + 1 = fuel + 1 - steps + steps := by
    omega
  rw [skipValue, hSplit, hSkip _ _ _ hRest]
  rfl

end Json

end UrlShortener
