/-
  This file defines the binary floating-point numbers of 64
  bits, without sign and without infinity, by exact
  arithmetic on natural numbers: rounding to the nearest,
  product, quotient, and the shortest decimal digits that
  read back.

  Key definitions include:
    * `Binary`
    * `Binary.round?`
    * `Binary.mul?`
    * `Binary.div?`
    * `Binary.shortest`
-/

namespace UrlShortener

------------------------------------------------------------
-- Numbers
------------------------------------------------------------

/-
  The number `mantissa * 2 ^ exponent`. The mantissa takes
  at most 53 bits and the exponent is at least -1074.
-/
structure Binary where
  mantissa : Nat
  exponent : Int
deriving DecidableEq, Repr

namespace Binary

/- Zero. -/
def zero : Binary := ⟨0, -1074⟩

/- A power of two times a fraction, as a fraction. -/
def scaleTwo (num den : Nat) (e : Int) : Nat × Nat :=
  if 0 ≤ e then (num * Nat.pow 2 e.toNat, den)
  else (num, den * Nat.pow 2 (-e).toNat)

/- A power of ten times a fraction, as a fraction. -/
def scaleTen (num den : Nat) (e : Int) : Nat × Nat :=
  if 0 ≤ e then (num * Nat.pow 10 e.toNat, den)
  else (num, den * Nat.pow 10 (-e).toNat)

/- Round a fraction to the nearest number, ties to even. -/
def roundHalfEven (num den : Nat) : Nat :=
  let q := num / den
  let twice := 2 * (num % den)
  if den < twice ∨ (twice = den ∧ q % 2 = 1) then q + 1 else q

/- The number as a fraction. -/
def fraction (b : Binary) : Nat × Nat :=
  scaleTwo b.mantissa 1 b.exponent

/-
  The nearest number to a fraction, ties to an even
  mantissa; none when it would be infinite.
-/
def round? (num den : Nat) : Option Binary :=
  if num = 0 then some zero
  else
    let guess : Int := (num.log2 : Int) - den.log2 - 52
    let (n, d) := scaleTwo num den (-guess)
    let exponent :=
      if n / d < Nat.pow 2 52 then guess - 1 else guess
    let exponent := max exponent (-1074)
    let (n, d) := scaleTwo num den (-exponent)
    let mantissa := roundHalfEven n d
    let rounded : Binary :=
      if mantissa = Nat.pow 2 53 then
        ⟨Nat.pow 2 52, exponent + 1⟩
      else ⟨mantissa, exponent⟩
    if 971 < rounded.exponent then none else some rounded

/- The rounded product. -/
def mul? (a b : Binary) : Option Binary :=
  let (n, d) := a.fraction
  let (n', d') := b.fraction
  round? (n * n') (d * d')

/- The rounded quotient by a number that is not zero. -/
def div? (a b : Binary) : Option Binary :=
  let (n, d) := a.fraction
  let (n', d') := b.fraction
  round? (n * d') (d * n')

end Binary

------------------------------------------------------------
-- Decimal digits
------------------------------------------------------------

namespace Binary

/-
  The ends of the interval that rounds to a number, as
  fractions with one denominator, and whether the ends
  belong to it. Below a power of two the numbers lie twice
  as dense.
-/
def interval (b : Binary) : Nat × Nat × Nat × Bool :=
  let edge := b.mantissa = Nat.pow 2 52 ∧ -1074 < b.exponent
  let low := 4 * b.mantissa - (if edge then 1 else 2)
  let high := 4 * b.mantissa + 2
  let (l, d) := scaleTwo low 4 b.exponent
  let (h, _) := scaleTwo high 4 b.exponent
  (l, h, d, b.mantissa % 2 = 0)

/- Whether a decimal reads back as a number. -/
def readsBack (b : Binary) (digits : Nat) (e : Int) : Bool :=
  let (l, h, d, closed) := b.interval
  let (n, d') := scaleTen digits 1 e
  let (x, low, high) := (n * d, l * d', h * d')
  if closed then low ≤ x && x ≤ high else low < x && x < high

/- The number of digits in front of the decimal point. -/
def pointOf (num den : Nat) : Int :=
  let guess := ((toString num).length : Int)
    - (toString den).length
  let (n, d) := scaleTen num den (-guess)
  if d ≤ n then guess + 1 else guess

/-
  The decimal with a given number of digits nearest to a
  number, if it or the neighbour on the other side reads
  back.
-/
def withDigits? (b : Binary) (count : Nat) :
    Option (Nat × Int) :=
  let (num, den) := b.fraction
  let e := pointOf num den - count
  let (n, d) := scaleTen num den (-e)
  let near := roundHalfEven n d
  let floor := n / d
  let other := if near = floor then floor + 1 else floor
  if b.readsBack near e then some (near, e)
  else if b.readsBack other e then some (other, e)
  else none

/- Drop the zeros at the end of a decimal. -/
def strip : Nat → Nat → Int → Nat × Int
| 0, n, e => (n, e)
| fuel + 1, n, e =>
    if n ≠ 0 ∧ n % 10 = 0 then strip fuel (n / 10) (e + 1)
    else (n, e)

/-
  The fewest decimal digits that read back as a number, and
  the power of ten they are to be multiplied with.
-/
def shortest (b : Binary) : Nat × Int :=
  if b.mantissa = 0 then (0, 0)
  else
    let found :=
      (List.range 17).findSome? fun i => b.withDigits? (i + 1)
    match found with
    | some (n, e) => strip 20 n e
    | none => (0, 0)

end Binary

end UrlShortener
