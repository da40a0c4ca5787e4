/-
Whole numbers written in ASCII digits.
-/
namespace InvoiceApproval.Text

/-- The value of an ASCII digit. -/
def digitValue (c : Char) : Nat := c.toNat - '0'.toNat

/-- The power of ten by which a number grows when so many digits are written behind it. -/
def tenTo (places : Nat) : Nat := Nat.pow 10 places

/-- The number that a row of digits adds to `start` when it is written behind it. -/
def appendDigits (start : Nat) (ds : List Char) : Nat :=
  ds.foldl (fun n c => n * 10 + digitValue c) start

/-- The number that a row of digits denotes. -/
def digitsValue (ds : List Char) : Nat := appendDigits 0 ds

/-- A row of digits, at least one. -/
def digits? (cs : List Char) : Option Nat :=
  if !cs.isEmpty && cs.all Char.isDigit then some (digitsValue cs) else none

/-- Reads a whole number below `bound`: one plus sign may stand in front, and then
come digits only, at least one. -/
def unsignedBelow? (bound : Nat) (cs : List Char) : Option Nat :=
  let ds := match cs with
    | '+' :: rest => rest
    | _ => cs
  (digits? ds).filter (· < bound)

theorem appendDigits_append (start : Nat) (xs ys : List Char) :
    appendDigits start (xs ++ ys) = appendDigits (appendDigits start xs) ys := by
  simp [appendDigits]

theorem tenTo_succ (places : Nat) : tenTo (places + 1) = tenTo places * 10 := rfl

/-- Writing digits behind a number multiplies it by their power of ten. -/
theorem appendDigits_eq (start : Nat) (ds : List Char) :
    appendDigits start ds = start * tenTo ds.length + digitsValue ds := by
  induction ds generalizing start with
  | nil => simp [appendDigits, digitsValue, tenTo]
  | cons c ds ih =>
    have h1 : appendDigits start (c :: ds) = appendDigits (start * 10 + digitValue c) ds := rfl
    have h2 : digitsValue (c :: ds) = appendDigits (0 * 10 + digitValue c) ds := rfl
    rw [h1, h2, ih, ih (0 * 10 + digitValue c), List.length_cons, tenTo_succ]
    grind

end InvoiceApproval.Text
