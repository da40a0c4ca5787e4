/-
Approvers: the people who can sign off an invoice.
-/
import InvoiceApproval.Department

namespace InvoiceApproval

/-- A person who can sign off an invoice.  One who answers for the whole company
belongs to no department. -/
structure Approver where
  id : String
  name : String
  email : String
  department : Option Department
  isManager : Bool
deriving DecidableEq, Repr

namespace Approver

/-- Whether an approver belongs to a department. -/
def belongsTo (a : Approver) (d : Department) : Bool := a.department == some d

end Approver

end InvoiceApproval
