/-
Approval requests.

A request asks who has to sign off an invoice.  It names an amount, a department
and whether a manager has to approve, and its amount is never negative: the only
ways to make one check that, so nothing that is handed a request checks it again.
-/
import InvoiceApproval.Decimal.Reader
import InvoiceApproval.Department

namespace InvoiceApproval

/-- Why a request is refused. -/
inductive ValidationError where
  /-- No department has this name. -/
  | unknownDepartment (value : String)
  /-- The amount lies below zero. -/
  | negativeAmount (amount : Decimal)
  /-- The text of the amount is not a decimal that can be held exactly. -/
  | malformedAmount (raw : String)
  /-- The document that carries the request cannot be read. -/
  | malformedRequest (reason : String)
deriving DecidableEq

/-- The wording of a refusal. -/
def ValidationError.message : ValidationError → String
  | .unknownDepartment value =>
    s!"Invalid department: {value}. Valid values: {Department.listing}"
  | .negativeAmount amount => s!"Invalid amount: {amount.toText}. Amount must not be negative"
  | .malformedAmount raw => s!"Invalid amount: `{raw}` is not a decimal number"
  | .malformedRequest reason => s!"Invalid request: {reason}"

/-- The department that a text names. -/
def Department.parse (value : String) : Except ValidationError Department :=
  match Department.ofText? value with
  | some d => .ok d
  | none => .error (.unknownDepartment value)

/-- The amount that a person has typed. -/
def Decimal.parseTyped (raw : String) : Except ValidationError Decimal :=
  match Decimal.readTyped raw with
  | some d => .ok d
  | none => .error (.malformedAmount raw)

/-- A request to have an invoice approved. -/
structure ApprovalRequest where
  amount : Decimal
  department : Department
  requiresManagerApproval : Bool
  amount_nonneg : amount.isNegative = false
deriving DecidableEq

namespace ApprovalRequest

/-- Makes a request, unless its amount is negative. -/
def make (amount : Decimal) (department : Department) (requiresManagerApproval : Bool) :
    Except ValidationError ApprovalRequest :=
  if h : amount.isNegative = false then .ok ⟨amount, department, requiresManagerApproval, h⟩
  else .error (.negativeAmount amount)

/-- Makes a request from an amount and the text of a department. -/
def ofParts (amount : Decimal) (department : String) (requiresManagerApproval : Bool) :
    Except ValidationError ApprovalRequest := do
  let department ← Department.parse department
  make amount department requiresManagerApproval

/-- Makes a request from what a person has typed.  The amount is looked at first, then
the department, and the sign of the amount last. -/
def ofTyped (amount department : String) (requiresManagerApproval : Bool) :
    Except ValidationError ApprovalRequest := do
  let amount ← Decimal.parseTyped amount
  ofParts amount department requiresManagerApproval

end ApprovalRequest

end InvoiceApproval
