/-
Reading decimals.

A numeral is a sign, digits with at most one point among them, and separators: an
underscore may stand anywhere behind the first digit.  Three readers share that
grammar.

The **exact** reader takes a numeral only if every digit fits: none may stand behind
the twenty-eighth place, and none may push the coefficient past its bound.

The **rounding** reader lets digits behind the point go.  The first digit that does
not fit decides: from five on the last place that fits goes up by one.  A separator
right behind the last place counts as a zero digit, unless the coefficient is already
wide: then it is passed over, and the digit behind it decides.

The **scientific** reader takes a numeral with an exponent.  It reads the numeral
with the rounding reader and then moves the point.

What a person types is read exactly or as scientific notation, and moving the point
is exact or fails.  What a program writes is read with rounding or as scientific
notation, and the digits that the point moves behind the twenty-eighth place are
rounded away.
-/
import InvoiceApproval.Decimal.Basic
import InvoiceApproval.Text.Blank
import InvoiceApproval.Text.Unsigned

namespace InvoiceApproval

open Text (digitValue digitsValue tenTo)

/-! ### The grammar of numerals -/

/-- A numeral cut into its parts.  Both parts hold digits and separators only. -/
structure Numeral where
  negative : Bool
  whole : List Char
  fraction : List Char

namespace Numeral

/-- A digit or a separator. -/
def isMark (c : Char) : Bool := c.isDigit || c == '_'

/-- The sign in front of a text, and what follows it. -/
def splitSign : List Char → Bool × List Char
  | '-' :: rest => (true, rest)
  | '+' :: rest => (false, rest)
  | cs => (false, cs)

/-- Reads a numeral: the first mark has to be a digit, and there has to be one. -/
def ofChars? (cs : List Char) : Option Numeral :=
  let (negative, body) := splitSign cs
  let whole := body.takeWhile (· != '.')
  let fraction := (body.dropWhile (· != '.')).drop 1
  if (whole ++ fraction).all isMark && ((whole ++ fraction).head?.any Char.isDigit) then
    some ⟨negative, whole, fraction⟩
  else none

/-- The value of the digits before the point. -/
def wholeValue (n : Numeral) : Nat := digitsValue (n.whole.filter Char.isDigit)

/-- Takes marks behind the point into a coefficient for as long as they fit.  Gives
the coefficient and scale reached and the marks that are left. -/
def absorb (magnitude scale : Nat) : List Char → Nat × Nat × List Char
  | [] => (magnitude, scale, [])
  | c :: rest =>
    if scale = 28 then (magnitude, scale, c :: rest)
    else if c = '_' then absorb magnitude scale rest
    else
      let next := magnitude * 10 + digitValue c
      if next < Decimal.bound then absorb next (scale + 1) rest else (magnitude, scale, c :: rest)

/-- Whether a coefficient was wide before its last digit came: a digit behind it might not
have fitted a machine word. -/
def isWide (magnitude : Nat) : Bool := 1844674407370954906 ≤ magnitude / 10

/-- The digit that decides the rounding, given the marks that did not fit.  Separators in
the first places are passed over behind a wide coefficient, and count as a zero
otherwise. -/
def deciding (magnitude : Nat) : List Char → Nat
  | [] => 0
  | c :: rest =>
    if c != '_' then digitValue c
    else if isWide magnitude then ((rest.find? Char.isDigit).map digitValue).getD 0
    else 0

/-- A coefficient one up in its last place.  At the bound one place is given up. -/
def roundUp (magnitude scale : Nat) : Option (Nat × Nat) :=
  if magnitude + 1 < Decimal.bound then some (magnitude + 1, scale)
  else if scale = 0 then none
  else some ((magnitude + 5) / 10, scale - 1)

end Numeral

/-! ### The three readers -/

namespace Decimal

/-- Reads a numeral of which every digit fits. -/
def readExact (cs : List Char) : Option Decimal := do
  let n ← Numeral.ofChars? cs
  if n.wholeValue < bound then
    match Numeral.absorb n.wholeValue 0 n.fraction with
    | (magnitude, scale, []) => make? n.negative magnitude scale
    | (_, _, _ :: _) => none
  else none

/-- Reads a numeral and rounds away the digits behind the point that do not fit. -/
def readRounded (cs : List Char) : Option Decimal := do
  let n ← Numeral.ofChars? cs
  if n.wholeValue < bound then
    let (magnitude, scale, left) := Numeral.absorb n.wholeValue 0 n.fraction
    if 5 ≤ Numeral.deciding magnitude left then
      let (magnitude, scale) ← Numeral.roundUp magnitude scale
      make? n.negative magnitude scale
    else make? n.negative magnitude scale
  else none

/-- A decimal with the point moved to the left, if every digit still fits. -/
def shiftDown (d : Decimal) (places : Nat) : Option Decimal :=
  if h : d.scale + places ≤ 28 then some { d with scale := d.scale + places, scale_le := h }
  else none

/-- A magnitude without its last digits.  The first of them decides the rounding: from
five on the magnitude goes up by one. -/
def dropDigits (magnitude : Nat) : Nat → Nat
  | 0 => magnitude
  | places + 1 =>
    let kept := magnitude / tenTo places
    kept / 10 + if 5 ≤ kept % 10 then 1 else 0

/-- Without its last digits a magnitude is no larger. -/
theorem dropDigits_le (magnitude places : Nat) : dropDigits magnitude places ≤ magnitude := by
  cases places with
  | zero => exact Nat.le_refl _
  | succ places =>
    have h : magnitude / tenTo places ≤ magnitude := Nat.div_le_self ..
    simp only [dropDigits]
    split <;> omega

/-- A decimal with the point moved to the left, and with the digits rounded away that
come behind the twenty-eighth place.  The sign stays, even if no other digit than zero
is left. -/
def shiftDownRounded (d : Decimal) (places : Nat) : Decimal :=
  match d.shiftDown places with
  | some moved => moved
  | none => {
    negative := d.negative
    magnitude := dropDigits d.magnitude (d.scale + places - 28)
    scale := 28
    magnitude_lt := Nat.lt_of_le_of_lt (dropDigits_le ..) d.magnitude_lt
    scale_le := full_scale_le }

/-- A decimal with the point moved to the right.  Places behind the point are used up
first and keep their zeros; what goes beyond them makes a whole number. -/
def shiftUp (d : Decimal) (places : Nat) : Option Decimal :=
  if places ≤ d.scale then
    some { d with
      scale := d.scale - places
      scale_le := Nat.le_trans (Nat.sub_le ..) d.scale_le }
  else make? d.negative (d.magnitude * tenTo (places - d.scale)) 0

/-- Whether a character opens an exponent. -/
def isExponentMark (c : Char) : Bool := c == 'e' || c == 'E'

/-- Reads a numeral and an exponent of at most 28 either way; `down` moves the point to
the left. -/
def readScientific (down : Decimal → Nat → Option Decimal) (cs : List Char) : Option Decimal := do
  let base := cs.takeWhile (!isExponentMark ·)
  match cs.dropWhile (!isExponentMark ·) with
  | [] => none
  | _ :: exponent =>
    let d ← readRounded base
    match exponent with
    | '-' :: ds =>
      let places ← Text.unsignedBelow? UInt32.size ds
      if places ≤ 28 then down d places else none
    | ds =>
      let places ← Text.unsignedBelow? UInt32.size ds
      if places ≤ 28 then d.shiftUp places else none

/-- Reads an amount as a person types it: blanks around it do not count, and every
digit has to fit. -/
def readTyped (raw : String) : Option Decimal :=
  let cs := Text.trimmed raw.toList
  readExact cs <|> readScientific shiftDown cs

/-- Reads a number as a program writes it into a document. -/
def readLiteral (literal : String) : Option Decimal :=
  let cs := literal.toList
  readRounded cs <|> readScientific (fun d places => some (d.shiftDownRounded places)) cs

end Decimal

end InvoiceApproval
