/-
  This file defines the splitting of texts: at the first or
  the last place where something occurs, or at all places.

  Key definitions include:
    * `Text.cutAt?`
    * `Text.cutAtFirst?`
    * `Text.cutAtLast?`
    * `Text.split`
    * `Text.join`
-/

namespace UrlShortener

------------------------------------------------------------
-- Cuts
------------------------------------------------------------

namespace Text

/- What follows a part in front of a text. -/
def after? : List Char → List Char → Option (List Char)
| [], cs => some cs
| _ :: _, [] => none
| p :: part, c :: cs =>
    if p = c then after? part cs else none

/-
  The texts before and after the first place where a part
  occurs.
-/
def cutAt? (part : List Char) :
    List Char → Option (List Char × List Char)
| [] => (after? part []).map ([], ·)
| c :: cs =>
    match after? part (c :: cs) with
    | some rest => some ([], rest)
    | none => (cutAt? part cs).map fun (l, r) => (c :: l, r)

/- The texts before and after the first mark. -/
def cutAtFirst? (mark : Char) (cs : List Char) :
    Option (List Char × List Char) :=
  match cs.dropWhile (· != mark) with
  | [] => none
  | _ :: rest => some (cs.takeWhile (· != mark), rest)

/- The texts before and after the last mark. -/
def cutAtLast? (mark : Char) (cs : List Char) :
    Option (List Char × List Char) :=
  (cutAtFirst? mark cs.reverse).map fun (l, r) =>
    (r.reverse, l.reverse)

end Text

------------------------------------------------------------
-- Parts
------------------------------------------------------------

namespace Text

/- The parts of a text between the characters of a kind. -/
def splitWhere (p : Char → Bool) :
    List Char → List (List Char)
| [] => [[]]
| c :: rest =>
    match splitWhere p rest with
    | [] => [[c]]
    | w :: ws => if p c then [] :: w :: ws else (c :: w) :: ws

/- The parts of a text between marks; at least one. -/
def split (mark : Char) (cs : List Char) : List (List Char) :=
  splitWhere (· == mark) cs

/- The texts of a list with a mark between them. -/
def join (mark : List Char) (parts : List (List Char)) :
    List Char :=
  (parts.intersperse mark).flatten

end Text

end UrlShortener
