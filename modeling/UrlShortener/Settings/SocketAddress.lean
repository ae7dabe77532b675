import UrlShortener.Text.Hex

/-
  This file defines the addresses that can be listened on: a
  network address of four numbers or one in brackets, and a
  port.

  Key definitions include:
    * `SocketAddress`
    * `SocketAddress.read?`
-/

namespace UrlShortener

------------------------------------------------------------
-- Addresses
------------------------------------------------------------

/- An address with a port, and a zone for the longer form. -/
inductive SocketAddress where
| short (parts : List Nat) (port : Nat)
| long (groups : List Nat) (zone port : Nat)
deriving DecidableEq, Repr

namespace SocketAddress

/- The wording for a text that is no address. -/
def faultMessage : String := "invalid socket address syntax"

end SocketAddress

------------------------------------------------------------
-- Numbers
------------------------------------------------------------

namespace SocketAddress

/- A digit of a base. -/
def digit? (base : Nat) (c : Char) : Option Nat :=
  (Hex.value? c).filter fun d => d < base

/- A character that is a digit of a base. -/
def isDigit (base : Nat) (c : Char) : Bool :=
  (digit? base c).isSome

/- The value of digits of a base. -/
def value (base : Nat) (digits : List Char) : Nat :=
  digits.foldl (fun n c => base * n + (digit? base c).getD 0) 0

/- A number and the text after it. -/
def number?
    (base most : Nat)
    (fitsDigits : List Char → Bool)
    (cs : List Char) : Option (Nat × List Char) :=
  let digits := cs.takeWhile (isDigit base)
  let n := value base digits
  if !digits.isEmpty && fitsDigits digits && n ≤ most then
    some (n, cs.dropWhile (isDigit base))
  else
    none

/- At most three digits, without a zero in front. -/
def isPlainPart (digits : List Char) : Bool :=
  digits.length ≤ 3
    && (digits.length ≤ 1 || digits.head? != some '0')

/- The mark and the text after it. -/
def mark? (mark : Char) : List Char → Option (List Char)
| c :: rest => if c = mark then some rest else none
| [] => none

/- A port after its colon, up to the end. -/
def port? (cs : List Char) : Option Nat := do
  let rest ← mark? ':' cs
  let (n, rest) ← number? 10 65535 (fun _ => true) rest
  if rest.isEmpty then some n else none

end SocketAddress

------------------------------------------------------------
-- Parts and groups
------------------------------------------------------------

namespace SocketAddress

/- Four decimal parts with points between them. -/
def parts? (cs : List Char) : Option (List Nat × List Char) := do
  let (a, rest) ← number? 10 255 isPlainPart cs
  let (b, rest) ← number? 10 255 isPlainPart (← mark? '.' rest)
  let (c, rest) ← number? 10 255 isPlainPart (← mark? '.' rest)
  let (d, rest) ← number? 10 255 isPlainPart (← mark? '.' rest)
  some ([a, b, c, d], rest)

/- The two groups that four parts are short for. -/
def groupsOfParts : List Nat → List Nat
| [a, b, c, d] => [a * 256 + b, c * 256 + d]
| _ => []

/- A group of up to four hexadecimal digits. -/
def group? (cs : List Char) : Option (Nat × List Char) :=
  number? 16 65535 (fun digits => digits.length ≤ 4) cs

/- The text after a colon, which the first group has not. -/
def afterColon? (first : Bool) (cs : List Char) :
    Option (List Char) :=
  if first then some cs else mark? ':' cs

/-
  As many groups as there are, up to a number of them. Four
  parts may take the place of the last two. The flag tells
  whether they do.
-/
def groups :
    Nat → Bool → List Char → List Nat × Bool × List Char
| 0, _, cs => ([], false, cs)
| left + 1, first, cs =>
    let parts :=
      if left = 0 then none
      else (afterColon? first cs).bind parts?
    match parts with
    | some (ps, rest) => (groupsOfParts ps, true, rest)
    | none =>
        match (afterColon? first cs).bind group? with
        | none => ([], false, cs)
        | some (g, rest) =>
            let (gs, ended, rest) := groups left false rest
            (g :: gs, ended, rest)

/- Eight groups, of which a run of zeros may be left out. -/
def allGroups? (cs : List Char) :
    Option (List Nat × List Char) := do
  let (head, ended, rest) := groups 8 true cs
  if head.length = 8 then some (head, rest)
  else if ended then none
  else
    let rest ← mark? ':' (← mark? ':' rest)
    let (tail, _, rest) := groups (7 - head.length) true rest
    let zeros := List.replicate (8 - head.length - tail.length) 0
    some (head ++ zeros ++ tail, rest)

end SocketAddress

------------------------------------------------------------
-- Reading
------------------------------------------------------------

namespace SocketAddress

/- Read an address of four parts. -/
def short? (cs : List Char) : Option SocketAddress := do
  let (parts, rest) ← parts? cs
  let port ← port? rest
  some (.short parts port)

/- A zone after its mark; zero if there is none. -/
def zone? (cs : List Char) : Option (Nat × List Char) :=
  match cs with
  | '%' :: rest => number? 10 4294967295 (fun _ => true) rest
  | _ => some (0, cs)

/- Read an address in brackets. -/
def long? (cs : List Char) : Option SocketAddress := do
  let (groups, rest) ← allGroups? (← mark? '[' cs)
  let (zone, rest) ← zone? rest
  let port ← port? (← mark? ']' rest)
  some (.long groups zone port)

/- Read an address. -/
def read? (s : String) : Option SocketAddress :=
  (short? s.toList).orElse fun _ => long? s.toList

end SocketAddress

end UrlShortener
