/-
Submitted forms.

A form is written as pairs with ampersands between them, each a name and a value
with an equals sign between.  A plus sign stands for a space, and a percent sign
with two digits of base sixteen stands for a byte; where the digits are not there
the percent sign stands for itself.  Bytes that are no text become U+FFFD.

A browser leaves out a box that is not checked.
-/
import InvoiceApproval.Department
import InvoiceApproval.Text.Blank
import InvoiceApproval.Text.Case
import InvoiceApproval.Text.Hex
import InvoiceApproval.Text.Utf8

namespace InvoiceApproval

namespace Form

/-! ### Pairs -/

/-- The value of a byte that is a digit of base sixteen. -/
def digitByte? (b : UInt8) : Option Nat := Text.hexDigitValue? (Char.ofNat b.toNat)

/-- Puts bytes in the place of percent signs and the digits behind them. -/
def percentDecoded : List UInt8 → List UInt8
  | [] => []
  | [b] => [b]
  | [b, c] => [b, c]
  | b :: high :: low :: rest =>
    match b == 0x25, digitByte? high, digitByte? low with
    | true, some h, some l => UInt8.ofNat (16 * h + l) :: percentDecoded rest
    | _, _, _ => b :: percentDecoded (high :: low :: rest)

/-- Puts spaces in the place of plus signs. -/
def plusDecoded (bytes : List UInt8) : List UInt8 :=
  bytes.map fun b => if b == 0x2B then 0x20 else b

/-- The text of a name or a value. -/
def decodedText (bytes : List UInt8) : String :=
  String.ofList (Text.decodeLossy (percentDecoded (plusDecoded bytes)))

/-- Cuts bytes at every ampersand. -/
def splitPairs : List UInt8 → List (List UInt8)
  | [] => [[]]
  | b :: rest =>
    if b == 0x26 then [] :: splitPairs rest
    else match splitPairs rest with
      | pair :: pairs => (b :: pair) :: pairs
      | [] => [[b]]

/-- The name and the value of a pair.  Without an equals sign the value is empty. -/
def decodedPair (pair : List UInt8) : String × String :=
  (decodedText (pair.takeWhile (· != 0x3D)), decodedText ((pair.dropWhile (· != 0x3D)).drop 1))

/-- The pairs of a form, in their order. -/
def pairs (body : List UInt8) : List (String × String) :=
  ((splitPairs body).filter (!·.isEmpty)).map decodedPair

end Form

/-! ### The form of an invoice -/

/-- What a person has entered, as the form shows it again. -/
structure FormValues where
  amount : String
  department : String
  requiresManagerApproval : Bool
deriving DecidableEq, Repr

/-- The form that nobody has filled in yet. -/
def FormValues.unfilled : FormValues := ⟨"", Department.sales.name, false⟩

/-- A form as it was submitted. -/
structure SubmittedForm where
  amount : String
  department : String
  /-- What was sent for the box; nothing if it was left out. -/
  box : Option String
deriving DecidableEq, Repr

namespace SubmittedForm

/-- The values sent under a name. -/
def sent (pairs : List (String × String)) (name : String) : List String :=
  (pairs.filter (·.1 == name)).map (·.2)

/-- The one value sent under a name, if there is any; it may not be sent twice. -/
def single? (pairs : List (String × String)) (name : String) : Option (Option String) :=
  match sent pairs name with
  | [] => some none
  | [value] => some (some value)
  | _ => none

/-- Reads a submitted form.  Text that was left out is empty, and names that are not known
do no harm. -/
def ofBody? (body : List UInt8) : Option SubmittedForm := do
  let pairs := Form.pairs body
  let amount ← single? pairs "amount"
  let department ← single? pairs "department"
  let box ← single? pairs "requires_manager_approval"
  return ⟨amount.getD "", department.getD "", box⟩

/-- Whether the box was checked. -/
def isChecked (f : SubmittedForm) : Bool :=
  match f.box with
  | none => false
  | some value => value != "" && value != "false" && value != "off"

/-- The form as it is shown again. -/
def values (f : SubmittedForm) : FormValues :=
  ⟨f.amount, Text.asciiUpper (Text.trim f.department), f.isChecked⟩

end SubmittedForm

end InvoiceApproval
