/-
  This file defines JSON values as answers and error
  details hold them: their numbers are integers.

  Key definitions include:
    * `Json`
    * `Json.field?`
-/

namespace UrlShortener

------------------------------------------------------------
-- Values
------------------------------------------------------------

/- A JSON value. The fields of a record have no order. -/
inductive Json where
| null
| flag (value : Bool)
| number (value : Int)
| text (value : String)
| list (items : List Json)
| record (fields : List (String × Json))
deriving Repr

instance : Inhabited Json := ⟨.null⟩

namespace Json

/- The record without fields. -/
def empty : Json := .record []

/- The first field of a record with a given name. -/
def field? : Json → String → Option Json
| .record fields, name =>
    (fields.find? (fun f => f.1 == name)).map Prod.snd
| _, _ => none

end Json

end UrlShortener
