import UrlShortener.Http.LinkBody
import UrlShortener.Proofs.Json.Values
import UrlShortener.Proofs.Results

/-
  Bodies that hold a link request. Of a value that is printed
  as the body of a request, just one that encodes a link
  request is read, and as that request: an object in which no
  field stands twice, or a list of the fields, and in either
  the destination and, for each other field, nothing, a null
  or a value of its type. Fields of other names are skipped,
  whatever their values are.

  Key definitions include:
    * `LinkBody.Nullable`
    * `LinkBody.Perhaps`
    * `LinkBody.Decodes`
    * `LinkBody.Encodes`

  Main declarations:
    * `LinkBody.readField_reads`
    * `LinkBody.readFields_reads`
    * `LinkBody.readItems_reads`
    * `LinkBody.read_bytes_eq_ok_iff`
-/

------------------------------------------------------------
-- Values Of Fields
------------------------------------------------------------

namespace UrlShortener

namespace LinkBody

open Json

/- A value that is a text. -/
def IsText (v : Json) (s : String) : Prop := v = .text s

/- A value that is the text of a point of time. -/
def IsTime (v : Json) (t : Timestamp) : Prop :=
  ∃ s, v = .text s ∧ Timestamp.ofText s = .ok t

/- A value that may be null. -/
inductive Nullable
    {α : Type}
    (reads : Json → α → Prop) : Json → Option α → Prop where
| null : Nullable reads .null none
| given
    {v : Json}
    {a : α}
    (hReads : reads v a) : Nullable reads v (some a)

/- What a reader makes of the bytes of a value. -/
def Reads
    {α : Type}
    (read : List UInt8 → Except Fault (α × List UInt8))
    (reads : Json → α → Prop) : Prop :=
  ∀ v rest a left,
    read (v.bytes ++ rest) = .ok (a, left) ↔
      reads v a ∧ left = rest

/- Nothing is read from a value that is refused. -/
theorem refuse_ne_ok
    {α : Type}
    (expected : String)
    (bytes : List UInt8)
    (a : α) : refuse expected bytes ≠ .ok a := by
  have hAfter
      {β : Type}
      {x : Except Fault β}
      {found : β → String}
      {left : β → List UInt8} :
      (x >>= fun b => wrongType expected (found b) (left b)) ≠
        Except.ok a := by
    intro hOk
    rcases bind_eq_ok_iff.mp hOk with ⟨_, _, hWrong⟩
    cases hWrong
  unfold refuse wrongNumber
  split
  · exact nofun
  split
  · exact hAfter
  split
  · exact hAfter
  split
  · exact hAfter
  split
  · exact hAfter
  split
  · exact hAfter
  split
  · exact hAfter
  split
  · exact nofun
  split
  · exact nofun
  · exact nofun

/- A string is read from the bytes of a text alone. -/
theorem readString_reads
    (expected : String) : Reads (readString expected) IsText := by
  intro v rest s left
  rcases bytes_eq_cons v with ⟨b, more, hBytes, hOpens⟩
  by_cases hText : ∃ t, v = .text t
  · rcases hText with ⟨t, rfl⟩
    have hRead :
        readString expected ((text t).bytes ++ rest) =
          .ok (t, rest) := by
      rw [bytes_text, List.cons_append]
      exact readText_behindQuote t rest
    rw [hRead, Except.ok.injEq, Prod.mk.injEq, IsText,
      Json.text.injEq, eq_comm (a := rest)]
  · have hQuote : b ≠ 0x22 :=
      fun hSame => hText (hOpens.text hSame)
    rw [hBytes, List.cons_append, readString,
      skipBlanks_cons hOpens.not_blank]
    dsimp only
    rw [if_neg hQuote]
    refine iff_of_false (refuse_ne_ok _ _ _) ?_
    rintro ⟨hSame, _⟩
    exact hText ⟨s, hSame⟩

theorem readTime_reads : Reads readTime IsTime := by
  intro v rest t left
  unfold readTime
  rw [bind_eq_ok_iff]
  constructor
  · rintro ⟨⟨s, after⟩, hString, hTime⟩
    rcases (readString_reads _ v rest s after).mp hString with
      ⟨hText, rfl⟩
    dsimp only at hTime
    split at hTime
    · rename_i hRead
      cases hTime
      exact ⟨⟨s, hText, hRead⟩, rfl⟩
    · cases hTime
  · rintro ⟨⟨s, hText, hTime⟩, rfl⟩
    refine ⟨(s, left), (readString_reads _ v left s left).mpr
      ⟨hText, rfl⟩, ?_⟩
    dsimp only
    rw [hTime]

/- A value that may be absent is read, or is null. -/
theorem Reads.optional
    {α : Type}
    {read : List UInt8 → Except Fault (α × List UInt8)}
    {reads : Json → α → Prop}
    (hReads : Reads read reads)
    (hNull : ∀ a, ¬ reads .null a) :
    Reads (readOptional read) (Nullable reads) := by
  intro v rest o left
  rcases bytes_eq_cons v with ⟨b, more, hBytes, hOpens⟩
  by_cases hSame : v = .null
  · subst hSame
    have hRead :
        readOptional read (Json.null.bytes ++ rest) =
          .ok (none, rest) := rfl
    rw [hRead, Except.ok.injEq, Prod.mk.injEq]
    constructor
    · rintro ⟨rfl, rfl⟩
      exact ⟨.null, rfl⟩
    · rintro ⟨hValue, rfl⟩
      cases hValue with
      | null => exact ⟨rfl, rfl⟩
      | given hGiven => exact absurd hGiven (hNull _)
  · have hOther : b ≠ 0x6E :=
      fun hByte => hSame (hOpens.null hByte)
    have hRead :
        readOptional read (v.bytes ++ rest) =
          (read (v.bytes ++ rest)).map
            fun p => (some p.1, p.2) := by
      rw [readOptional, hBytes, List.cons_append,
        skipBlanks_cons hOpens.not_blank]
      split
      · rename_i hByte
        cases hByte
        exact absurd rfl hOther
      · rfl
    rw [hRead, map_eq_ok_iff]
    constructor
    · rintro ⟨⟨a, after⟩, hValue, hResult⟩
      cases hResult
      rcases (hReads v rest a after).mp hValue with
        ⟨hGiven, hRest⟩
      exact ⟨.given hGiven, hRest⟩
    · rintro ⟨hValue, rfl⟩
      cases hValue with
      | null => exact absurd rfl hSame
      | given hGiven =>
          exact ⟨_, (hReads v left _ left).mpr ⟨hGiven, rfl⟩,
            rfl⟩

end LinkBody

end UrlShortener

------------------------------------------------------------
-- Fields That Are Read
------------------------------------------------------------

namespace UrlShortener

namespace LinkBody

open Json

/- What a field holds after values for it: one, if it had none. -/
inductive Slot
    {α : Type}
    (reads : Json → α → Prop) :
    Option α → List Json → Option α → Prop where
| kept (before : Option α) : Slot reads before [] before
| filled
    {v : Json}
    {a : α}
    (hReads : reads v a) : Slot reads none [v] (some a)

/- What the fields hold after values for each of them. -/
structure Takes
    (given : Field → List Json)
    (before after : Fields) : Prop where
  longUrl :
    Slot IsText before.longUrl (given .longUrl) after.longUrl
  originalUrl :
    Slot (Nullable IsText) before.originalUrl
      (given .originalUrl) after.originalUrl
  userId :
    Slot (Nullable IsText) before.userId (given .userId)
      after.userId
  expireAt :
    Slot (Nullable IsTime) before.expireAt (given .expireAt)
      after.expireAt

/- A value for one field. -/
def single (field : Field) (v : Json) : Field → List Json :=
  fun f => if f = field then [v] else []

section Slots

variable {α : Type} {reads : Json → α → Prop}
variable {before after : Option α} {v : Json}
variable {first second : List Json}

theorem slot_nil_iff :
    Slot reads before [] after ↔ after = before := by
  constructor
  · intro hSlot
    cases hSlot with
    | kept => rfl
  · rintro rfl
    exact .kept after

theorem slot_singleton_iff :
    Slot reads before [v] after ↔
      before = none ∧ ∃ a, reads v a ∧ after = some a := by
  constructor
  · intro hSlot
    cases hSlot with
    | filled hReads => exact ⟨rfl, _, hReads, rfl⟩
  · rintro ⟨rfl, a, hReads, rfl⟩
    exact .filled hReads

/- The values for a field may be taken one after another. -/
theorem slot_append_iff :
    Slot reads before (first ++ second) after ↔
      ∃ between, Slot reads before first between ∧
        Slot reads between second after := by
  constructor
  · intro hSlot
    cases first with
    | nil => exact ⟨before, .kept before, hSlot⟩
    | cons v first =>
        cases first with
        | nil =>
            cases second with
            | nil => exact ⟨after, hSlot, .kept after⟩
            | cons w second => cases hSlot
        | cons w first => cases hSlot
  · rintro ⟨between, hFirst, hSecond⟩
    cases hFirst with
    | kept => exact hSecond
    | filled hReads =>
        cases hSecond with
        | kept => exact .filled hReads

end Slots

variable {given later : Field → List Json}
variable {got got' before after : Fields}
variable {field : Field} {v : Json}

theorem takes_nothing_iff
    (hNothing : ∀ f, given f = []) :
    Takes given before after ↔ after = before := by
  constructor
  · rintro ⟨hLong, hOriginal, hUser, hExpire⟩
    rw [hNothing, slot_nil_iff] at hLong hOriginal hUser hExpire
    cases after
    cases before
    simp only [Fields.mk.injEq]
    exact ⟨hLong, hOriginal, hUser, hExpire⟩
  · rintro rfl
    constructor
    all_goals
      rw [hNothing]
      exact .kept _

/- Values for the fields may be taken one after another. -/
theorem takes_append_iff :
    Takes (fun f => given f ++ later f) before after ↔
      ∃ between, Takes given before between ∧
        Takes later between after := by
  constructor
  · rintro ⟨hLong, hOriginal, hUser, hExpire⟩
    rcases slot_append_iff.mp hLong with ⟨longUrl, hL, hL'⟩
    rcases slot_append_iff.mp hOriginal with
      ⟨originalUrl, hO, hO'⟩
    rcases slot_append_iff.mp hUser with ⟨userId, hU, hU'⟩
    rcases slot_append_iff.mp hExpire with ⟨expireAt, hE, hE'⟩
    exact ⟨⟨longUrl, originalUrl, userId, expireAt⟩,
      ⟨hL, hO, hU, hE⟩, ⟨hL', hO', hU', hE'⟩⟩
  · rintro ⟨between, hFirst, hSecond⟩
    exact ⟨slot_append_iff.mpr
        ⟨_, hFirst.longUrl, hSecond.longUrl⟩,
      slot_append_iff.mpr
        ⟨_, hFirst.originalUrl, hSecond.originalUrl⟩,
      slot_append_iff.mpr ⟨_, hFirst.userId, hSecond.userId⟩,
      slot_append_iff.mpr
        ⟨_, hFirst.expireAt, hSecond.expireAt⟩⟩

theorem takes_iff :
    Takes given before after ↔
      Slot IsText before.longUrl (given .longUrl)
          after.longUrl ∧
        Slot (Nullable IsText) before.originalUrl
            (given .originalUrl) after.originalUrl ∧
          Slot (Nullable IsText) before.userId
              (given .userId) after.userId ∧
            Slot (Nullable IsTime) before.expireAt
              (given .expireAt) after.expireAt :=
  ⟨fun h => ⟨h.longUrl, h.originalUrl, h.userId, h.expireAt⟩,
    fun h => ⟨h.1, h.2.1, h.2.2.1, h.2.2.2⟩⟩

theorem read_onto_iff
    {α : Type}
    {read : List UInt8 → Except Fault (α × List UInt8)}
    {reads : Json → α → Prop}
    {rest left : List UInt8}
    (hReads : Reads read reads)
    (set : α → Fields) :
    (read (v.bytes ++ rest) >>= fun p =>
        pure (set p.1, p.2)) = .ok (after, left) ↔
      (∃ a, reads v a ∧ after = set a) ∧ left = rest := by
  rw [bind_eq_ok_iff]
  constructor
  · rintro ⟨⟨a, behind⟩, hRead, hSame⟩
    cases hSame
    rcases (hReads v rest a behind).mp hRead with ⟨hValue, hRest⟩
    exact ⟨⟨a, hValue, rfl⟩, hRest⟩
  · rintro ⟨⟨a, hValue, rfl⟩, rfl⟩
    exact ⟨(a, left), (hReads v left a left).mpr ⟨hValue, rfl⟩,
      rfl⟩

/- A value of a field is taken if the field had none. -/
theorem takes_single_iff :
    Takes (single field v) before after ↔
      before.has field = false ∧
        match field with
        | .longUrl => ∃ s, IsText v s ∧
            after = { before with longUrl := some s }
        | .originalUrl => ∃ o, Nullable IsText v o ∧
            after = { before with originalUrl := some o }
        | .userId => ∃ o, Nullable IsText v o ∧
            after = { before with userId := some o }
        | .expireAt => ∃ o, Nullable IsTime v o ∧
            after = { before with expireAt := some o } := by
  rcases before with ⟨longUrl, originalUrl, userId, expireAt⟩
  rcases after with ⟨longUrl', originalUrl', userId', expireAt'⟩
  rw [takes_iff]
  cases field with
  | _ =>
      simp only [single, reduceIte, reduceCtorEq,
        slot_singleton_iff, slot_nil_iff, Fields.has,
        Option.isSome_eq_false_iff, Option.isNone_iff_eq_none,
        Fields.mk.injEq]
      grind

/- The value of a field is read as the field takes it. -/
theorem readField_reads
    (hNew : got.has field = false)
    {rest left : List UInt8} :
    readField field got (v.bytes ++ rest) = .ok (got', left) ↔
      Takes (single field v) got got' ∧ left = rest := by
  have hText : Reads (readOptional readPlain) (Nullable IsText) :=
    (readString_reads _).optional nofun
  have hTime : Reads (readOptional readTime) (Nullable IsTime) := by
    refine readTime_reads.optional ?_
    rintro t ⟨s, hSame, _⟩
    cases hSame
  rw [takes_single_iff, and_iff_right hNew]
  cases field with
  | longUrl =>
      exact read_onto_iff (readString_reads _)
        fun s => { got with longUrl := some s }
  | originalUrl =>
      exact read_onto_iff hText
        fun o => { got with originalUrl := some o }
  | userId =>
      exact read_onto_iff hText
        fun o => { got with userId := some o }
  | expireAt =>
      exact read_onto_iff hTime
        fun o => { got with expireAt := some o }

end LinkBody

end UrlShortener

------------------------------------------------------------
-- Objects
------------------------------------------------------------

namespace UrlShortener

namespace LinkBody

open Json

/- The values of each field in an object. -/
def named (fields : List (String × Json)) : Field → List Json :=
  fun f => (fields.filter fun g => g.1 == f.name).map Prod.snd

variable {got got' : Fields} {rest left : List UInt8}
variable {fuel : Nat} {field : String × Json}
variable {fields : List (String × Json)}

theorem named_cons (f : Field) :
    named (field :: fields) f =
      named [field] f ++ named fields f := by
  unfold named
  rw [← List.map_append, ← List.filter_append,
    List.singleton_append]

theorem named?_eq_some_iff
    {name : String}
    {f : Field} :
    Field.named? name = some f ↔ name = f.name := by
  constructor
  · intro hFind
    unfold Field.named? at hFind
    have hFound := List.find?_some hFind
    exact (eq_of_beq hFound).symm
  · rintro rfl
    cases f with
    | _ => rfl

/- The value of a key is read as its field takes it. -/
theorem readKeyed_reads
    (hFuel : field.2.bytes.length ≤ fuel)
    (hRest : Delimited rest) :
    readKeyed fuel field.1 got
        (0x3A :: (field.2.bytes ++ rest)) = .ok (got', left) ↔
      Takes (named [field]) got got' ∧ left = rest := by
  have hColon
      (more : List UInt8) :
      readColon (0x3A :: more) = .ok more := rfl
  rcases field with ⟨name, v⟩
  unfold readKeyed
  cases hName : Field.named? name with
  | some f =>
      have hSingle : named [(name, v)] = single f v := by
        rw [named?_eq_some_iff] at hName
        subst hName
        funext g
        cases f with
        | _ =>
            cases g with
            | _ => rfl
      rw [hSingle]
      dsimp only
      cases hHas : got.has f with
      | true =>
          rw [takes_single_iff, hHas]
          exact iff_of_false nofun fun hTakes =>
            Bool.noConfusion hTakes.1.1
      | false =>
          rw [if_neg Bool.false_ne_true, hColon]
          change within _ (readField f got _) = _ ↔ _
          rw [within, mapError_eq_ok_iff]
          exact readField_reads hHas
  | none =>
      have hNothing : ∀ f, named [(name, v)] f = [] := by
        intro f
        have hOther : ¬ (name == f.name) = true := by
          intro hSame
          rw [named?_eq_some_iff.mpr (eq_of_beq hSame)] at hName
          cases hName
        rw [named, List.filter_cons, if_neg hOther]
        rfl
      rw [takes_nothing_iff hNothing]
      dsimp only
      rw [hColon]
      change (within _ (skipValue fuel (v.bytes ++ rest)) >>= _) =
        _ ↔ _
      rw [skipValue_bytes hFuel hRest]
      change Except.ok (got, rest) = _ ↔ _
      rw [Except.ok.injEq, Prod.mk.injEq, eq_comm,
        eq_comm (a := rest)]

/- The bytes in front of a field: a comma, but for the first. -/
def lead : Bool → List UInt8
| true => []
| false => [0x2C]

/- A field is read, and then those behind it. -/
theorem readFields_field
    (first : Bool) :
    readFields (fuel + 1) first got
        (lead first ++ (fieldBytes field ++ rest)) =
      (readKeyed fuel field.1 got
          (0x3A :: (field.2.bytes ++ rest)) >>= fun p =>
        readFields fuel false p.1 p.2) := by
  have hKey :
      nextKey first (lead first ++ (fieldBytes field ++ rest)) =
        .ok (false,
          behindQuote field.1 ++
            0x3A :: (field.2.bytes ++ rest)) := by
    have hBytes :
        fieldBytes field ++ rest =
          0x22 :: (behindQuote field.1 ++
            0x3A :: (field.2.bytes ++ rest)) := by
      rw [fieldBytes, List.cons_append, List.append_assoc,
        List.cons_append]
    rw [hBytes]
    cases first with
    | true => rfl
    | false => rfl
  rw [readFields, hKey]
  change (readText _ >>= _) = _
  rw [readText_behindQuote]
  rfl

/- If those behind a field are read, all of them are. -/
theorem readFields_cons_iff
    (first : Bool)
    {more : List UInt8}
    (hFuel : field.2.bytes.length ≤ fuel)
    (hDelimited : Delimited more)
    (hMore :
      ∀ got,
        readFields fuel false got more = .ok (got', left) ↔
          Takes (named fields) got got' ∧ left = rest) :
    readFields (fuel + 1) first got
        (lead first ++ (fieldBytes field ++ more)) =
          .ok (got', left) ↔
      Takes (named (field :: fields)) got got' ∧
        left = rest := by
  have hNamed :
      named (field :: fields) =
        fun f => named [field] f ++ named fields f :=
    funext named_cons
  rw [readFields_field, bind_eq_ok_iff, hNamed, takes_append_iff]
  constructor
  · rintro ⟨⟨between, behind⟩, hKeyed, hLater⟩
    rcases (readKeyed_reads hFuel hDelimited).mp hKeyed with
      ⟨hFirst, rfl⟩
    rcases (hMore between).mp hLater with ⟨hSecond, hRest⟩
    exact ⟨⟨between, hFirst, hSecond⟩, hRest⟩
  · rintro ⟨⟨between, hFirst, hSecond⟩, hRest⟩
    exact ⟨(between, more),
      (readKeyed_reads hFuel hDelimited).mpr ⟨hFirst, rfl⟩,
      (hMore between).mpr ⟨hSecond, hRest⟩⟩

/- The bytes of a record end where its bracket closes it. -/
theorem readFields_end_iff
    (first : Bool) :
    readFields (fuel + 1) first got (0x7D :: rest) =
        .ok (got', left) ↔
      Takes (named []) got got' ∧ left = rest := by
  have hEnd :
      readFields (fuel + 1) first got (0x7D :: rest) =
        .ok (got, rest) := by
    cases first with
    | true => rfl
    | false => rfl
  have hNothing : ∀ f, named [] f = [] := fun _ => rfl
  rw [hEnd, takes_nothing_iff hNothing, Except.ok.injEq,
    Prod.mk.injEq, eq_comm, eq_comm (a := rest)]

/- The bytes of further fields. -/
def further (fields : List (String × Json)) : List UInt8 :=
  fields.flatMap fun field => 0x2C :: fieldBytes field

theorem delimited_further :
    Delimited (further fields ++ 0x7D :: rest) := by
  have hDelimited :
      Delimited
        ((fields.map fieldBytes).flatMap
            (fun more => 0x2C :: more) ++
          Frame.object.closing :: rest) :=
    delimited_entries
  rw [List.flatMap_map] at hDelimited
  exact hDelimited

/- Fields behind others are read one after another. -/
theorem readFields_further
    (hFuel : (further fields).length < fuel) :
    readFields fuel false got (further fields ++ 0x7D :: rest) =
        .ok (got', left) ↔
      Takes (named fields) got got' ∧ left = rest := by
  induction fields generalizing fuel got with
  | nil =>
      cases fuel with
      | zero => cases hFuel
      | succ fuel => exact readFields_end_iff false
  | cons field fields ih =>
      cases fuel with
      | zero => cases hFuel
      | succ fuel =>
          have hBytes :
              further (field :: fields) =
                0x2C :: (fieldBytes field ++ further fields) :=
            rfl
          have hLength :
              (further fields).length < fuel ∧
                field.2.bytes.length ≤ fuel := by
            rw [hBytes] at hFuel
            simp only [fieldBytes, List.length_cons,
              List.length_append] at hFuel
            omega
          rw [hBytes, List.cons_append, List.append_assoc]
          exact readFields_cons_iff false hLength.2
            delimited_further fun _ => ih hLength.1

/- The fields of an object are read one after another. -/
theorem readFields_reads
    (hFuel :
      (joined (fields.map fieldBytes)).length < fuel) :
    readFields fuel true got
        (joined (fields.map fieldBytes) ++ 0x7D :: rest) =
          .ok (got', left) ↔
      Takes (named fields) got got' ∧ left = rest := by
  cases fuel with
  | zero => cases hFuel
  | succ fuel =>
      cases fields with
      | nil => exact readFields_end_iff true
      | cons field fields =>
          have hBytes :
              joined ((field :: fields).map fieldBytes) =
                fieldBytes field ++ further fields := by
            rw [List.map_cons, joined, List.flatMap_map, further]
          have hLength :
              (further fields).length < fuel ∧
                field.2.bytes.length ≤ fuel := by
            rw [hBytes] at hFuel
            simp only [fieldBytes, List.length_cons,
              List.length_append] at hFuel
            omega
          rw [hBytes, List.append_assoc]
          exact readFields_cons_iff true hLength.2
            delimited_further fun _ =>
              readFields_further hLength.1

end LinkBody

end UrlShortener

------------------------------------------------------------
-- Lists
------------------------------------------------------------

namespace UrlShortener

namespace LinkBody

open Json

/- The values of fields that stand in a list in their order. -/
def inOrder
    (fields : List Field)
    (items : List Json) : Field → List Json :=
  fun f =>
    ((fields.zip items).filter fun p => p.1 == f).map Prod.snd

variable {got got' : Fields} {rest left : List UInt8}
variable {count : Nat} {field : Field} {fields : List Field}
variable {v : Json} {items : List Json}

theorem inOrder_cons (f : Field) :
    inOrder (field :: fields) (v :: items) f =
      single field v f ++ inOrder fields items f := by
  unfold inOrder single
  rw [List.zip_cons_cons, List.filter_cons]
  by_cases hSame : f = field
  · subst hSame
    simp
  · have hOther : ¬ (field == f) = true := by
      rw [beq_iff_eq]
      exact fun hEq => hSame hEq.symm
    simp [hSame, hOther]

/- Taking a value changes whether its field was read alone. -/
theorem Takes.has_of_ne
    {f : Field}
    (hTakes : Takes (single field v) got got')
    (hOther : f ≠ field) : got'.has f = got.has f := by
  have hAfter := (takes_single_iff.mp hTakes).2
  cases field with
  | _ =>
      rcases hAfter with ⟨_, _, rfl⟩
      cases f with
      | _ => first | rfl | exact absurd rfl hOther

/- The bytes in front of an item: a comma, but for the first. -/
theorem nextItem_item
    (first : Bool) :
    nextItem first (lead first ++ (v.bytes ++ rest)) =
      .ok (false, v.bytes ++ rest) := by
  rcases bytes_eq_cons v with ⟨b, more, hBytes, hOpens⟩
  rw [hBytes, List.cons_append]
  cases first with
  | true =>
      change nextItem true (b :: (more ++ rest)) = _
      rw [nextItem, skipBlanks_cons hOpens.not_blank]
      dsimp only
      rw [if_neg hOpens.not_closing.1, if_pos rfl]
  | false =>
      change nextItem false (0x2C :: b :: (more ++ rest)) = _
      rw [nextItem, skipBlanks_cons (by decide)]
      dsimp only
      rw [if_neg (by decide), if_neg Bool.false_ne_true,
        if_pos rfl, skipBlanks_cons hOpens.not_blank]
      dsimp only
      rw [if_neg hOpens.not_closing.1]

/- If those behind an item are read, all of them are. -/
theorem readItems_cons_iff
    {more : List UInt8}
    (hNew : ∀ f ∈ field :: fields, got.has f = false)
    (hOnce : (field :: fields).Nodup)
    (hMore :
      ∀ got, (∀ f ∈ fields, got.has f = false) →
        (readItems (count + 1) fields got more =
            .ok (got', left) ↔
          items.length = fields.length ∧
            Takes (inOrder fields items) got got' ∧
            left = rest)) :
    readItems count (field :: fields) got
        (lead (count == 0) ++ (v.bytes ++ more)) =
          .ok (got', left) ↔
      (v :: items).length = (field :: fields).length ∧
        Takes (inOrder (field :: fields) (v :: items)) got
          got' ∧
        left = rest := by
  have hInOrder :
      inOrder (field :: fields) (v :: items) =
        fun f => single field v f ++ inOrder fields items f :=
    funext inOrder_cons
  rcases List.forall_mem_cons.mp hNew with ⟨hHead, hTail⟩
  rcases List.nodup_cons.mp hOnce with ⟨hNotIn, _⟩
  have hStill
      {between : Fields}
      (hFirst : Takes (single field v) got between) :
      ∀ f ∈ fields, between.has f = false := by
    intro f hMem
    rw [hFirst.has_of_ne fun hSame => hNotIn (hSame ▸ hMem)]
    exact hTail f hMem
  rw [readItems, nextItem_item]
  change (within _ (readField field got _) >>= _) = _ ↔ _
  rw [bind_eq_ok_iff, hInOrder, takes_append_iff,
    List.length_cons, List.length_cons, Nat.succ_inj]
  simp only [within, mapError_eq_ok_iff]
  constructor
  · rintro ⟨⟨between, behind⟩, hField, hLater⟩
    rcases (readField_reads hHead).mp hField with ⟨hFirst, rfl⟩
    rcases (hMore between (hStill hFirst)).mp hLater with
      ⟨hLength, hSecond, hRest⟩
    exact ⟨hLength, ⟨between, hFirst, hSecond⟩, hRest⟩
  · rintro ⟨hLength, ⟨between, hFirst, hSecond⟩, hRest⟩
    exact ⟨(between, more),
      (readField_reads hHead).mpr ⟨hFirst, rfl⟩,
      (hMore between (hStill hFirst)).mpr
        ⟨hLength, hSecond, hRest⟩⟩

/- Behind all fields, no further item may stand. -/
theorem endList_comma_ne_ok :
    endList (0x2C :: rest) ≠ .ok left := by
  rw [endList, skipBlanks_cons (by decide)]
  dsimp only
  rw [if_neg (by decide), if_pos rfl]
  split
  · exact nofun
  · exact nofun

/- Items behind others are read one after another. -/
theorem readItems_further
    (hNew : ∀ f ∈ fields, got.has f = false)
    (hOnce : fields.Nodup) :
    readItems (count + 1) fields got
        (items.flatMap (fun item => 0x2C :: item.bytes) ++
          0x5D :: rest) = .ok (got', left) ↔
      items.length = fields.length ∧
        Takes (inOrder fields items) got got' ∧ left = rest := by
  induction fields generalizing count got items with
  | nil =>
      cases items with
      | nil =>
          have hEnd :
              readItems (count + 1) [] got (0x5D :: rest) =
                .ok (got, rest) := rfl
          have hNothing : ∀ f, inOrder [] [] f = [] :=
            fun _ => rfl
          change readItems (count + 1) [] got (0x5D :: rest) =
            _ ↔ _
          have hNone :
              ([] : List Json).length =
                ([] : List Field).length := rfl
          rw [hEnd, takes_nothing_iff hNothing,
            and_iff_right hNone, Except.ok.injEq,
            Prod.mk.injEq, eq_comm, eq_comm (a := rest)]
      | cons v items =>
          refine iff_of_false ?_ nofun
          intro hRead
          rcases bind_eq_ok_iff.mp hRead with ⟨_, hEnd, _⟩
          exact endList_comma_ne_ok hEnd
  | cons field fields ih =>
      cases items with
      | nil =>
          exact iff_of_false nofun fun hAll =>
            nomatch hAll.1
      | cons v items =>
          rw [List.flatMap_cons, List.cons_append,
            List.cons_append, List.append_assoc]
          exact readItems_cons_iff hNew hOnce
            fun _ hStill => ih hStill (List.nodup_cons.mp hOnce).2

/- The items of a list are read as all fields in order. -/
theorem readItems_reads :
    readItems 0 Field.all .empty
        (joined (items.map bytes) ++ 0x5D :: rest) =
          .ok (got', left) ↔
      items.length = 4 ∧
        Takes (inOrder Field.all items) .empty got' ∧
        left = rest := by
  have hOnce : Field.all.Nodup := by decide
  have hNew : ∀ f ∈ Field.all, Fields.empty.has f = false := by
    decide
  cases items with
  | nil =>
      exact iff_of_false nofun fun hAll => nomatch hAll.1
  | cons v items =>
      rw [List.map_cons, joined, List.flatMap_map,
        List.append_assoc]
      exact readItems_cons_iff hNew hOnce
        fun _ hStill => readItems_further hStill
          (List.nodup_cons.mp hOnce).2

end LinkBody

end UrlShortener

------------------------------------------------------------
-- Whole Bodies
------------------------------------------------------------

namespace UrlShortener

namespace LinkBody

open Json

/- What a field of the request is: absent or null, or a value. -/
inductive Perhaps
    {α : Type}
    (reads : Json → α → Prop) :
    List Json → Option α → Prop where
| absent : Perhaps reads [] none
| present
    {v : Json}
    {o : Option α}
    (hReads : Nullable reads v o) : Perhaps reads [v] o

/- The link request that values of the fields encode. -/
structure Decodes
    (given : Field → List Json)
    (request : LinkRequest) : Prop where
  longUrl : given .longUrl = [.text request.longUrl]
  originalUrl :
    Perhaps IsText (given .originalUrl) request.originalUrl
  userId : Perhaps IsText (given .userId) request.userId
  expireAt : Perhaps IsTime (given .expireAt) request.expireAt

/-
  A value that encodes a link request: an object that gives
  its fields by their names, or a list of all in order.
-/
inductive Encodes : Json → LinkRequest → Prop where
| record
    {fields : List (String × Json)}
    {request : LinkRequest}
    (hFields : Decodes (named fields) request) :
    Encodes (.record fields) request
| list
    {items : List Json}
    {request : LinkRequest}
    (hLength : items.length = 4)
    (hItems : Decodes (inOrder Field.all items) request) :
    Encodes (.list items) request

theorem perhaps_iff
    {α : Type}
    {reads : Json → α → Prop}
    {values : List Json}
    {o : Option α} :
    Perhaps reads values o ↔
      ∃ found, Slot (Nullable reads) none values found ∧
        found.join = o := by
  constructor
  · intro hPerhaps
    cases hPerhaps with
    | absent => exact ⟨none, .kept none, rfl⟩
    | present hReads => exact ⟨_, .filled hReads, rfl⟩
  · rintro ⟨found, hSlot, rfl⟩
    cases hSlot with
    | kept => exact .absent
    | filled hReads => exact .present hReads

variable {given : Field → List Json} {request : LinkRequest}
variable {v : Json}

/- A request is made of the fields if they hold its parts. -/
theorem decodes_iff :
    Decodes given request ↔
      ∃ got, Takes given .empty got ∧
        got.request? = some request := by
  constructor
  · rintro ⟨hLong, hOriginal, hUser, hExpire⟩
    rcases perhaps_iff.mp hOriginal with
      ⟨originalUrl, hOriginalSlot, hOriginalSame⟩
    rcases perhaps_iff.mp hUser with
      ⟨userId, hUserSlot, hUserSame⟩
    rcases perhaps_iff.mp hExpire with
      ⟨expireAt, hExpireSlot, hExpireSame⟩
    refine ⟨⟨some request.longUrl, originalUrl, userId,
      expireAt⟩, ⟨?_, hOriginalSlot, hUserSlot, hExpireSlot⟩, ?_⟩
    · rw [hLong]
      exact .filled rfl
    · rw [Fields.request?, Option.map_some, hOriginalSame,
        hUserSame, hExpireSame]
  · rintro ⟨got, ⟨hLong, hOriginal, hUser, hExpire⟩, hRequest⟩
    rcases Option.map_eq_some_iff.mp hRequest with
      ⟨longUrl, hSome, rfl⟩
    refine ⟨?_, perhaps_iff.mpr ⟨_, hOriginal, rfl⟩,
      perhaps_iff.mpr ⟨_, hUser, rfl⟩,
      perhaps_iff.mpr ⟨_, hExpire, rfl⟩⟩
    have hNone : Fields.empty.longUrl = none := rfl
    rw [hSome, hNone] at hLong
    generalize given .longUrl = values at hLong
    cases hLong with
    | filled hReads => exact congrArg ([·]) hReads

/- A request is read if the fields that are read make one. -/
theorem request_eq_ok_iff
    {P : Prop}
    {x : Except Fault (Fields × List UInt8)}
    {failed : List UInt8 → Except Fault (LinkRequest × List UInt8)}
    {rest left : List UInt8}
    (hFailed : ∀ rest result, failed rest ≠ .ok result)
    (hRead :
      ∀ got left, x = .ok (got, left) ↔
        P ∧ Takes given .empty got ∧ left = rest) :
    (x >>= fun p =>
      match p.1.request? with
      | some request => .ok (request, p.2)
      | none => failed p.2) = .ok (request, left) ↔
      (P ∧ Decodes given request) ∧ left = rest := by
  rw [bind_eq_ok_iff, decodes_iff]
  constructor
  · rintro ⟨⟨got, behind⟩, hFields, hResult⟩
    rcases (hRead got behind).mp hFields with ⟨hP, hTakes, rfl⟩
    dsimp only at hResult
    split at hResult
    · rename_i hRequest
      cases hResult
      exact ⟨⟨hP, got, hTakes, hRequest⟩, rfl⟩
    · exact absurd hResult (hFailed _ _)
  · rintro ⟨⟨hP, got, hTakes, hRequest⟩, rfl⟩
    refine ⟨(got, left), (hRead got left).mpr
      ⟨hP, hTakes, rfl⟩, ?_⟩
    dsimp only
    rw [hRequest]

/- Of an object, what its fields encode is read. -/
theorem readObject_eq_ok_iff
    {fields : List (String × Json)}
    {rest left : List UInt8} :
    readObject (joined (fields.map fieldBytes) ++ 0x7D :: rest) =
        .ok (request, left) ↔
      (True ∧ Decodes (named fields) request) ∧ left = rest := by
  refine request_eq_ok_iff (fun _ _ => nofun) ?_
  intro got left
  rw [true_and]
  refine readFields_reads ?_
  rw [List.length_append]
  omega

/- Of a list, what its items encode is read. -/
theorem readList_eq_ok_iff
    {items : List Json}
    {rest left : List UInt8} :
    readList (joined (items.map bytes) ++ 0x5D :: rest) =
        .ok (request, left) ↔
      (items.length = 4 ∧
        Decodes (inOrder Field.all items) request) ∧
        left = rest :=
  request_eq_ok_iff (fun _ _ => nofun)
    fun _ _ => readItems_reads

/- A body that is read is read to its end. -/
theorem read_eq_ok_iff
    {P : Prop}
    {body : List UInt8}
    (hRead :
      ∀ left, readRequest body = .ok (request, left) ↔
        P ∧ left = []) :
    read body = .ok request ↔ P := by
  rw [read, bind_eq_ok_iff]
  constructor
  · rintro ⟨⟨found, left⟩, hFound, hEnd⟩
    dsimp only at hEnd
    split at hEnd
    · cases hEnd
      exact ((hRead left).mp hFound).1
    · cases hEnd
  · intro hP
    exact ⟨(request, []), (hRead []).mpr ⟨hP, rfl⟩, rfl⟩

theorem encodes_record_iff
    {fields : List (String × Json)} :
    Encodes (.record fields) request ↔
      Decodes (named fields) request := by
  constructor
  · intro hEncodes
    cases hEncodes with
    | record hFields => exact hFields
  · exact .record

theorem encodes_list_iff
    {items : List Json} :
    Encodes (.list items) request ↔
      items.length = 4 ∧
        Decodes (inOrder Field.all items) request := by
  constructor
  · intro hEncodes
    cases hEncodes with
    | list hLength hItems => exact ⟨hLength, hItems⟩
  · exact fun hItems => .list hItems.1 hItems.2

/-
  Of a printed value, just what it encodes is read as a link
  request.
-/
theorem read_bytes_eq_ok_iff :
    read v.bytes = .ok request ↔ Encodes v request := by
  refine read_eq_ok_iff ?_
  intro left
  by_cases hRecord : ∃ fields, v = .record fields
  · rcases hRecord with ⟨fields, rfl⟩
    rw [bytes_record, encodes_record_iff,
      ← true_and (Decodes (named fields) request)]
    exact readObject_eq_ok_iff
  by_cases hList : ∃ items, v = .list items
  · rcases hList with ⟨items, rfl⟩
    rw [bytes_list, encodes_list_iff]
    exact readList_eq_ok_iff
  · rcases bytes_eq_cons v with ⟨b, more, hBytes, hOpens⟩
    rw [readRequest, hBytes, skipBlanks_cons hOpens.not_blank]
    dsimp only
    rw [if_neg fun hByte => hList (hOpens.list hByte),
      if_neg fun hByte => hRecord (hOpens.record hByte)]
    refine iff_of_false (refuse_ne_ok _ _ _) ?_
    rintro ⟨hEncodes, _⟩
    cases hEncodes with
    | record => exact hRecord ⟨_, rfl⟩
    | list => exact hList ⟨_, rfl⟩

end LinkBody

end UrlShortener
