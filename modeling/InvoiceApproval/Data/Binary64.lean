/-
Binary fractions of double precision.

A number with a point in a TOML file is a double: the nearest number of the form
`m · 2^q` with `m` below 2^53.  To get from there to a decimal the double is written
with the fewest digits that still read back as the same double, and of those with
the digits nearest to it.

Everything is worked out in whole numbers.  A double `m · 2^q` stands for the
numbers between its two half-way points, ends included if `m` is even.  On the grid
of the multiples of a power of ten, the two neighbours of the double are the only
candidates; the coarsest grid on which one of them lies between the half-way points
has the fewest digits.
-/
import InvoiceApproval.Text.Unsigned

namespace InvoiceApproval

/-- A non-negative double: `mantissa · 2 ^ exponent`. -/
structure Binary64 where
  mantissa : Nat
  exponent : Int
deriving DecidableEq, Repr

namespace Binary64

/-- Two to the fifty-third: every mantissa lies below it. -/
def mantissaBound : Nat := 9007199254740992

/-- Two to the fifty-second: where the exponent can still fall, no mantissa lies below it. -/
def leastMantissa : Nat := 4503599627370496

/-- The smallest exponent of a double. -/
def minExponent : Int := -1074

/-- The largest exponent of a double. -/
def maxExponent : Int := 971

/-- A power with an exponent of either sign, as a fraction. -/
def power (base : Nat) (e : Int) : Nat × Nat :=
  if 0 ≤ e then (Nat.pow base e.toNat, 1) else (1, Nat.pow base (-e).toNat)

/-! ### From a decimal to the nearest double -/

/-- A quotient rounded to the nearest whole number; a half goes to the even one. -/
def roundQuotient (num den : Nat) : Nat :=
  let q := num / den
  let twice := 2 * (num % den)
  if twice < den then q else if den < twice then q + 1 else q + q % 2

/-- The exponent at which a positive fraction has fifty-three binary digits. -/
def exponentOf (num den : Nat) : Int :=
  let guess : Int := (num.log2 : Int) - den.log2 - 53
  let (p, r) := power 2 guess
  let fits := num * r < mantissaBound * (den * p)
  max minExponent (if fits then guess else guess + 1)

/-- The double nearest to `digits · 10 ^ e`; nothing if that is past the largest one. -/
def nearest (digits : Nat) (e : Int) : Option Binary64 :=
  let size : Int := (Nat.toDigits 10 digits).length + e
  if digits = 0 ∨ size < -330 then some ⟨0, minExponent⟩
  else if 310 < size then none
  else
    let (p, r) := power 10 e
    let (num, den) := (digits * p, r)
    let q := exponentOf num den
    let (p, r) := power 2 q
    let m := roundQuotient (num * r) (den * p)
    let (m, q) := if m = mantissaBound then (leastMantissa, q + 1) else (m, q)
    if maxExponent < q then none else some ⟨m, q⟩

/-! ### From a double to the fewest digits -/

/-- The place of the first digit of a positive double: the power of ten at or below it. -/
def leadingPlace (b : Binary64) : Int :=
  let (p, r) := power 2 b.exponent
  (Nat.toDigits 10 (b.mantissa * p * Text.tenTo 400 / r)).length - 1 - 400

/-- The neighbour of a positive double on the grid of multiples of `10 ^ place` that lies
within its half-way points, the nearer one if both do. -/
def onGrid? (b : Binary64) (place : Int) : Option Nat :=
  let (p, r) := power 2 (b.exponent - 2)
  let (s, t) := power 10 place
  -- All distances are measured in units of a quarter of the last binary place.
  let unit := p * t
  let step := r * s
  let value := 4 * b.mantissa * unit
  let lowGap := if b.mantissa = leastMantissa ∧ minExponent < b.exponent then unit else 2 * unit
  let highGap := 2 * unit
  let within (gap limit : Nat) : Bool := gap < limit || (gap == limit && b.mantissa % 2 == 0)
  let below := value / step
  let lowDistance := value - below * step
  let highDistance := (below + 1) * step - value
  match within lowDistance lowGap, within highDistance highGap with
  | true, true =>
    if lowDistance < highDistance then some below
    else if highDistance < lowDistance then some (below + 1)
    else some (below + below % 2)
  | true, false => some below
  | false, true => some (below + 1)
  | false, false => none

/-- The fewest digits of a positive double and the place of the last of them, tried from
`place` on with this many grids to go.  Seventeen digits always suffice. -/
def shortestFrom (b : Binary64) (place : Int) : Nat → Nat × Int
  | 0 => (0, place)
  | grids + 1 =>
    match b.onGrid? place with
    | some digits => (digits, place)
    | none => b.shortestFrom (place - 1) grids

/-- Digits without the zeros at their end, and the place of the last one that is left. -/
def stripZeros (digits : List Char) (place : Int) : List Char × Int :=
  let kept := (digits.reverse.dropWhile (· == '0')).reverse
  (kept, place + (digits.length - kept.length))

/-- The digits of a positive double and the place of the last of them. -/
def shortest (b : Binary64) : List Char × Int :=
  let (digits, place) := b.shortestFrom b.leadingPlace 18
  stripZeros (Nat.toDigits 10 digits) place

/-! ### The literal -/

/-- Where the notation with an exponent begins: a number whose point lies more than
`widest` places behind its first digit, or `leastPoint` places or more before it. -/
structure Notation64 where
  widest : Int
  leastPoint : Int

/-- Whole numbers below 10^16 and fractions from 10^-5 on are written without exponent. -/
def positional : Notation64 := ⟨16, -5⟩

/-- Digits in positional notation, given the place of the last of them. -/
def plainChars (digits : List Char) (place : Int) : List Char :=
  let point : Int := digits.length + place
  if 0 ≤ place then digits ++ List.replicate place.toNat '0'
  else if 0 < point then digits.take point.toNat ++ '.' :: digits.drop point.toNat
  else '0' :: '.' :: (List.replicate (-point).toNat '0' ++ digits)

/-- A double in positional notation with no more digits than it needs. -/
def plain (b : Binary64) : List Char :=
  if b.mantissa = 0 then ['0']
  else
    let (digits, place) := b.shortest
    plainChars digits place

/-- A double as a literal: positional with at least one digit behind the point, else one
digit before the point and an exponent. -/
def literal (b : Binary64) : List Char :=
  if b.mantissa = 0 then ['0', '.', '0']
  else
    let (digits, place) := b.shortest
    let point : Int := digits.length + place
    if positional.leastPoint < point ∧ point ≤ positional.widest then
      plainChars digits place ++ (if 0 ≤ place then ['.', '0'] else [])
    else
      let exponent := 'e' :: (toString (point - 1)).toList
      match digits with
      | [d] => d :: exponent
      | d :: ds => d :: '.' :: (ds ++ exponent)
      | [] => []

end Binary64

end InvoiceApproval
