import UrlShortener.Json.Scan
import UrlShortener.Link.Request
import UrlShortener.Text.Quoted
import UrlShortener.Time.Reader

/-
  This file defines the reading of a link request from the
  bytes of a JSON text: an object with the fields of the
  request, or a list of all of them in order. Fields of
  other names are skipped.

  Key definitions include:
    * `LinkBody.Field`
    * `LinkBody.Fields`
    * `LinkBody.readObject`
    * `LinkBody.readList`
    * `LinkBody.read`
-/

namespace UrlShortener

------------------------------------------------------------
-- Values of other types
------------------------------------------------------------

namespace LinkBody

open Json

/- The name of the whole request in messages. -/
def requestName : String := "struct CreateLinkRequest"

/- A value of a type that was not asked for. -/
def wrongType
    {α : Type}
    (expected found : String)
    (rest : List UInt8) : Except Fault α :=
  notAsked
    ("invalid type: " ++ found ++ ", expected " ++ expected) rest

/- A number where something else was asked for. -/
def wrongNumber
    {α : Type}
    (expected : String)
    (negative : Bool)
    (bytes : List UInt8) : Except Fault α := do
  let (n, rest) ← readNumeral negative bytes
  wrongType expected n.described rest

/-
  Refuse a value by its type. Scalars are read to their
  ends; lists and objects are not entered.
-/
def refuse
    {α : Type}
    (expected : String)
    (bytes : List UInt8) : Except Fault α :=
  match bytes with
  | [] => faultNext .expectedValue []
  | b :: rest =>
      if b = 0x6E then do
        wrongType expected "null" (← readNull rest)
      else if b = 0x74 then do
        wrongType expected "boolean \x60true\x60" (← readTrue rest)
      else if b = 0x66 then do
        wrongType expected "boolean \x60false\x60"
          (← readFalse rest)
      else if b = 0x2D then wrongNumber expected true rest
      else if isDigit b then
        wrongNumber expected false (b :: rest)
      else if b = 0x22 then do
        let (s, rest) ← readText rest
        wrongType expected ("string " ++ Quoted.text s) rest
      else if b = 0x5B then
        wrongType expected "sequence" (b :: rest)
      else if b = 0x7B then wrongType expected "map" (b :: rest)
      else faultNext .expectedValue (b :: rest)

end LinkBody

------------------------------------------------------------
-- Values of fields
------------------------------------------------------------

namespace LinkBody

open Json

/- Read a string, after blanks. -/
def readString
    (expected : String)
    (bytes : List UInt8) : Except Fault (String × List UInt8) :=
  match skipBlanks bytes with
  | [] => faultNext .endInValue []
  | b :: rest =>
      if b = 0x22 then readText rest
      else refuse expected (b :: rest)

/- Read a text. -/
def readPlain (bytes : List UInt8) :
    Except Fault (String × List UInt8) :=
  readString "a string" bytes

/- Read a point of time. -/
def readTime (bytes : List UInt8) :
    Except Fault (Timestamp × List UInt8) := do
  let (s, rest) ←
    readString "an RFC 3339 formatted date and time string" bytes
  match Timestamp.ofText s with
  | .ok t => .ok (t, rest)
  | .error fault => notAsked fault.message rest

/- Read a value that may be absent. -/
def readOptional
    {α : Type}
    (read : List UInt8 → Except Fault (α × List UInt8))
    (bytes : List UInt8) :
    Except Fault (Option α × List UInt8) :=
  match skipBlanks bytes with
  | 0x6E :: rest => (readNull rest).map (none, ·)
  | rest => (read rest).map fun (a, rest) => (some a, rest)

end LinkBody

------------------------------------------------------------
-- Fields
------------------------------------------------------------

namespace LinkBody

open Json

/- The fields of a request. -/
inductive Field where
| longUrl
| originalUrl
| userId
| expireAt
deriving DecidableEq, Repr

namespace Field

/- The fields in order. -/
def all : List Field :=
  [.longUrl, .originalUrl, .userId, .expireAt]

/- The name of a field. -/
def name : Field → String
| .longUrl => "long_url"
| .originalUrl => "original_url"
| .userId => "user_id"
| .expireAt => "expire_at"

/- The field of a name. -/
def named? (s : String) : Option Field :=
  all.find? fun f => f.name == s

end Field

/- The fields read so far. -/
structure Fields where
  longUrl : Option String
  originalUrl : Option (Option String)
  userId : Option (Option String)
  expireAt : Option (Option Timestamp)
deriving DecidableEq, Repr

namespace Fields

/- No field has been read. -/
def empty : Fields := ⟨none, none, none, none⟩

/- Whether a field has been read. -/
def has (got : Fields) : Field → Bool
| .longUrl => got.longUrl.isSome
| .originalUrl => got.originalUrl.isSome
| .userId => got.userId.isSome
| .expireAt => got.expireAt.isSome

/- The request of the fields, if its destination is there. -/
def request? (got : Fields) : Option LinkRequest :=
  got.longUrl.map fun longUrl =>
    { longUrl
      originalUrl := got.originalUrl.join
      userId := got.userId.join
      expireAt := got.expireAt.join }

end Fields

/- Read the value of a field. -/
def readField
    (field : Field)
    (got : Fields)
    (bytes : List UInt8) :
    Except Fault (Fields × List UInt8) := do
  match field with
  | .longUrl =>
      let (v, rest) ← readPlain bytes
      return ({ got with longUrl := some v }, rest)
  | .originalUrl =>
      let (v, rest) ← readOptional readPlain bytes
      return ({ got with originalUrl := some v }, rest)
  | .userId =>
      let (v, rest) ← readOptional readPlain bytes
      return ({ got with userId := some v }, rest)
  | .expireAt =>
      let (v, rest) ← readOptional readTime bytes
      return ({ got with expireAt := some v }, rest)

end LinkBody

------------------------------------------------------------
-- Objects
------------------------------------------------------------

namespace LinkBody

open Json

/-
  Find the next key of an object, or its end. The answer is
  the bytes after the opening quote of the key or, marked,
  after the bracket that closes the object.
-/
def nextKey
    (first : Bool)
    (bytes : List UInt8) : Except Fault (Bool × List UInt8) :=
  match skipBlanks bytes with
  | [] => faultNext .endInObject []
  | b :: rest =>
      if b = 0x7D then .ok (true, rest)
      else if first then
        if b = 0x22 then .ok (false, rest)
        else faultNext .keyNotString (b :: rest)
      else if b = 0x2C then
        match skipBlanks rest with
        | [] => faultNext .endInValue []
        | c :: tail =>
            if c = 0x22 then .ok (false, tail)
            else if c = 0x7D then
              faultNext .trailingComma (c :: tail)
            else faultNext .keyNotString (c :: tail)
      else
        faultNext .expectedObjectEnd (b :: rest)

/- Read the colon between a key and its value. -/
def readColon (bytes : List UInt8) :
    Except Fault (List UInt8) :=
  match skipBlanks bytes with
  | [] => faultNext .endInObject []
  | b :: rest =>
      if b = 0x3A then .ok rest
      else faultNext .expectedColon (b :: rest)

/- The bytes after a bracket that closes an object here. -/
def closed (bytes : List UInt8) : List UInt8 :=
  match skipBlanks bytes with
  | 0x7D :: rest => rest
  | rest => rest

/-
  Read the value of a key onto the fields read so far. A
  field that is given again is a fault. The fuel bounds the
  number of bytes.
-/
def readKeyed
    (fuel : Nat)
    (key : String)
    (got : Fields)
    (bytes : List UInt8) :
    Except Fault (Fields × List UInt8) :=
  match Field.named? key with
  | some field =>
      if got.has field then
        notAsked ("duplicate field \x60" ++ key ++ "\x60")
          (closed bytes)
      else do
        let rest ← readColon bytes
        within (.field key) (readField field got rest)
  | none => do
      let rest ← readColon bytes
      let rest ← within (.field key) (skipValue fuel rest)
      return (got, rest)

/-
  Read the fields of an object. The fuel bounds the number
  of bytes; every field takes at least one.
-/
def readFields :
    Nat → Bool → Fields → List UInt8 →
    Except Fault (Fields × List UInt8)
| 0, _, got, rest => .ok (got, rest)
| fuel + 1, first, got, bytes => do
    let (ended, rest) ← nextKey first bytes
    if ended then return (got, rest)
    let (key, rest) ← readText rest
    let (got, rest) ← readKeyed fuel key got rest
    readFields fuel false got rest

/- Read a request from an object after its first bracket. -/
def readObject (bytes : List UInt8) :
    Except Fault (LinkRequest × List UInt8) := do
  let (got, rest) ←
    readFields (bytes.length + 1) true .empty bytes
  match got.request? with
  | some request => .ok (request, rest)
  | none =>
      notAsked
        ("missing field \x60" ++ Field.longUrl.name ++ "\x60") rest

end LinkBody

------------------------------------------------------------
-- Lists
------------------------------------------------------------

namespace LinkBody

open Json

/-
  Find the next item of a list, or its end. The answer is
  the bytes of the item or, marked, those after the bracket
  that closes the list.
-/
def nextItem
    (first : Bool)
    (bytes : List UInt8) : Except Fault (Bool × List UInt8) :=
  match skipBlanks bytes with
  | [] => faultNext .endInList []
  | b :: rest =>
      if b = 0x5D then .ok (true, rest)
      else if first then .ok (false, b :: rest)
      else if b = 0x2C then
        match skipBlanks rest with
        | [] => faultNext .endInValue []
        | c :: tail =>
            if c = 0x5D then faultNext .trailingComma (c :: tail)
            else .ok (false, c :: tail)
      else
        faultNext .expectedListEnd (b :: rest)

/- Read the end of a list that has all its items. -/
def endList (bytes : List UInt8) :
    Except Fault (List UInt8) :=
  match skipBlanks bytes with
  | [] => faultNext .endInList []
  | b :: rest =>
      if b = 0x5D then .ok rest
      else if b = 0x2C then
        match skipBlanks rest with
        | 0x5D :: tail => faultNext .trailingComma (0x5D :: tail)
        | tail => faultNext .trailingCharacters tail
      else
        faultNext .trailingCharacters (b :: rest)

/- A list that ends too early. -/
def tooShort
    {α : Type}
    (count : Nat)
    (rest : List UInt8) : Except Fault α :=
  notAsked
    ("invalid length " ++ toString count ++ ", expected "
      ++ requestName ++ " with 4 elements") rest

/- Read fields from the items of a list, in order. -/
def readItems :
    Nat → List Field → Fields → List UInt8 →
    Except Fault (Fields × List UInt8)
| _, [], got, bytes => do
    let rest ← endList bytes
    return (got, rest)
| count, field :: later, got, bytes => do
    let (ended, rest) ← nextItem (count == 0) bytes
    if ended then tooShort count rest
    else
      let (got, rest) ←
        within (.item count) (readField field got rest)
      readItems (count + 1) later got rest

/- Read a request from a list after its first bracket. -/
def readList (bytes : List UInt8) :
    Except Fault (LinkRequest × List UInt8) := do
  let (got, rest) ← readItems 0 Field.all .empty bytes
  match got.request? with
  | some request => .ok (request, rest)
  | none => tooShort 0 rest

end LinkBody

------------------------------------------------------------
-- Whole bodies
------------------------------------------------------------

namespace LinkBody

open Json

/- Read a request, after blanks. -/
def readRequest (bytes : List UInt8) :
    Except Fault (LinkRequest × List UInt8) :=
  match skipBlanks bytes with
  | [] => faultNext .endInValue []
  | b :: rest =>
      if b = 0x5B then readList rest
      else if b = 0x7B then readObject rest
      else refuse requestName (b :: rest)

/- Read a body, which holds a request and nothing else. -/
def read (bytes : List UInt8) : Except Fault LinkRequest := do
  let (request, rest) ← readRequest bytes
  match skipBlanks rest with
  | [] => .ok request
  | b :: tail => faultNext .trailingCharacters (b :: tail)

end LinkBody

end UrlShortener
