/-
  This file defines the reading of media types, as far as it
  takes to tell whether a body is said to be JSON.

  Key definitions include:
    * `MediaType`
    * `MediaType.read?`
    * `MediaType.isJson`
-/

namespace UrlShortener

------------------------------------------------------------
-- Media types
------------------------------------------------------------

/-
  A media type: its type and its subtype, which may have a
  suffix after its last plus sign.
-/
structure MediaType where
  type : List Char
  subtype : List Char
  suffix : Option (List Char)
deriving DecidableEq, Repr

namespace MediaType

/- The characters of names. -/
def isToken (c : Char) : Bool :=
  c.isAlphanum || "!#$%&\x27+-.^_\x60|~".toList.contains c

/- The characters between quotes. -/
def isQuoted (c : Char) : Bool :=
  31 < c.toNat && c.toNat != 127

/- Cut off a last plus sign that has a text before it. -/
def ofSubtype (type subtype : List Char) : MediaType :=
  let back := subtype.reverse
  let last := back.takeWhile (· != '+')
  match back.dropWhile (· != '+') with
  | '+' :: c :: front =>
      { type, subtype := (c :: front).reverse
        suffix := some last.reverse }
  | _ => { type, subtype, suffix := none }

end MediaType

------------------------------------------------------------
-- Parameters
------------------------------------------------------------

namespace MediaType

/- What a reader of parameters is in the middle of. -/
inductive Within where
| start
| name
| valueStart
| value
| quoteStart
| quoted
| afterQuote
deriving DecidableEq, Repr

/-
  One step through the parameters: where the reader is after
  a character. The character right after an opening quote
  never closes it.
-/
def Within.next? : Within → Char → Option Within
| .start, c =>
    if c = ' ' then some .start
    else if isToken c then some .name else none
| .name, c =>
    if c = '=' then some .valueStart
    else if isToken c then some .name else none
| .valueStart, c =>
    if c = '\x22' then some .quoteStart
    else if isToken c then some .value else none
| .value, c =>
    if c = ';' then some .start
    else if isToken c then some .value else none
| .quoteStart, c => if isQuoted c then some .quoted else none
| .quoted, c =>
    if c = '\x22' then some .afterQuote
    else if isQuoted c then some .quoted else none
| .afterQuote, c =>
    if c = ';' then some .start
    else if c = ' ' then some .afterQuote else none

/- Where the parameters may end. -/
def Within.mayEnd : Within → Bool
| .start | .valueStart | .value | .afterQuote => true
| .name | .quoteStart | .quoted => false

/- Whether a text is a list of parameters. -/
def areParameters (w : Within) : List Char → Bool
| [] => w.mayEnd
| c :: rest =>
    match w.next? c with
    | some w => areParameters w rest
    | none => false

end MediaType

------------------------------------------------------------
-- Reading
------------------------------------------------------------

namespace MediaType

/- Read a media type. -/
def read? (cs : List Char) : Option MediaType :=
  let type := cs.takeWhile isToken
  match cs.dropWhile isToken with
  | '/' :: rest =>
      let subtype := rest.takeWhile isToken
      if type.isEmpty then none
      else
        match rest.dropWhile isToken with
        | [] => some (ofSubtype type subtype)
        | ';' :: more =>
            if !subtype.isEmpty && areParameters .start more then
              some (ofSubtype type subtype)
            else
              none
        | _ => none
  | _ => none

/- Compare a name in any letter case. -/
def isNamed (name : String) (cs : List Char) : Bool :=
  cs.map Char.toLower == name.toList

/- A media type whose content is JSON. -/
def isJson (m : MediaType) : Bool :=
  isNamed "application" m.type
    && (isNamed "json" m.subtype || m.suffix.any (isNamed "json"))

end MediaType

end UrlShortener
