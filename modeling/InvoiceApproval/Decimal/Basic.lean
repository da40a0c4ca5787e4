/-
Decimal numbers of bounded size.

A decimal is a sign and a magnitude below 2^96, divided by a power of ten of at most
28.  The power is part of the value: `1000.00` and `1000` are written differently
although they are the same number, and both bounds travel with the type, so no
operation has to check them again.

A zero that is read as such has no sign.  But a number below zero may be so close to
it that all of its digits are rounded away, and what is left keeps the sign in
writing: it is no negative number, and it equals every other zero.

Comparing two decimals compares the numbers.  It multiplies each coefficient by the
other power of ten, and integers do not overflow, so the answer is exact however far
the two powers lie apart.
-/
import InvoiceApproval.Text.Unsigned

namespace InvoiceApproval

open Text (tenTo)

/-- Two to the ninety-sixth: every magnitude lies below it. -/
def Decimal.bound : Nat := 79228162514264337593543950336

/-- A decimal number: `magnitude / 10 ^ scale` with a sign. -/
structure Decimal where
  /-- Whether a minus sign is written in front. -/
  negative : Bool
  magnitude : Nat
  scale : Nat
  magnitude_lt : magnitude < Decimal.bound
  scale_le : scale ≤ 28
deriving DecidableEq

namespace Decimal

/-- The decimal of a sign, a magnitude and a scale, if they are in bounds.  A zero made
like this has no sign. -/
def make? (negative : Bool) (magnitude scale : Nat) : Option Decimal :=
  if h : magnitude < bound ∧ scale ≤ 28 then
    some ⟨negative && magnitude != 0, magnitude, scale, h.1, h.2⟩
  else none

/-- Zero has a magnitude in bounds. -/
theorem zero_lt_bound : 0 < bound := by decide

/-- A whole number has a scale in bounds. -/
theorem zero_scale_le : 0 ≤ 28 := by decide

/-- Twenty-eight places are as many as there can be. -/
theorem full_scale_le : 28 ≤ 28 := Nat.le_refl 28

/-- A whole number below 2^96 as a decimal. -/
def ofNat (n : Nat) (h : n < bound := by decide) : Decimal := ⟨false, n, 0, h, zero_scale_le⟩

/-- The magnitude with the sign. -/
def coefficient (d : Decimal) : Int := if d.negative then -(d.magnitude : Int) else d.magnitude

/-- The number that a decimal denotes. -/
def value (d : Decimal) : Rat := (d.coefficient : Rat) / tenTo d.scale

/-- Whether a decimal lies below zero.  A zero does not, whatever its sign. -/
def isNegative (d : Decimal) : Bool := d.negative && d.magnitude != 0

/-- A decimal lies below zero exactly if its coefficient does. -/
theorem isNegative_eq_true_iff (d : Decimal) : d.isNegative = true ↔ d.coefficient < 0 := by
  unfold isNegative coefficient
  cases d.negative with
  | false => exact ⟨fun h => absurd h Bool.false_ne_true, fun h => absurd h (by simp)⟩
  | true =>
    rw [Bool.true_and, bne_iff_ne, if_pos rfl]
    omega

/-! ### Order -/

/-- How two decimals compare as numbers. -/
def compare (a b : Decimal) : Ordering :=
  Ord.compare (a.coefficient * tenTo b.scale) (b.coefficient * tenTo a.scale)

/-! ### Writing -/

/-- The digits of the magnitude, with zeros in front so that at least one digit stands
before the point. -/
def digits (d : Decimal) : List Char :=
  let ds := Nat.toDigits 10 d.magnitude
  List.replicate (d.scale + 1 - ds.length) '0' ++ ds

/-- A decimal in positional notation: its sign, the whole part, and a point with as many
digits behind it as the scale says, zeros included. -/
def chars (d : Decimal) : List Char :=
  let ds := d.digits
  let whole := ds.take (ds.length - d.scale)
  let fraction := ds.drop (ds.length - d.scale)
  (if d.negative then ['-'] else []) ++ whole ++ (if d.scale = 0 then [] else '.' :: fraction)

/-- A decimal as text. -/
def toText (d : Decimal) : String := String.ofList d.chars

end Decimal

end InvoiceApproval
