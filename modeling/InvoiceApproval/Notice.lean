/-
Notices to approvers.

Every approver that a request goes to is sent one notice.  The notice names the
approver, says where it goes, and tells what there is to approve.
-/
import InvoiceApproval.Directory
import InvoiceApproval.Event
import InvoiceApproval.Request

namespace InvoiceApproval

/-- A notice to one approver. -/
structure Notice where
  approverId : String
  recipient : String
  message : String
deriving DecidableEq, Repr

namespace Notice

/-- What an approver is told about a request. -/
def wording (a : Approver) (r : ApprovalRequest) : String :=
  s!"Hi {a.name}, Invoice approval required: Amount=${r.amount.toText}, "
    ++ s!"Department={r.department.name}, "
    ++ s!"Manager Approval Required={Text.ofBool r.requiresManagerApproval}"

/-- The notice about a request to an approver. -/
def about (r : ApprovalRequest) (a : Approver) : Notice := ⟨a.id, a.email, wording a r⟩

/-- The confirmation that an approver has been told. -/
def confirmation (a : Approver) : String := s!"notification sent to {a.name}"

/-- The event that tells of a notice on a channel. -/
def event (channel : String) (n : Notice) : Event where
  level := .info
  message := "approval notification recorded"
  name := "notification.sent"
  details := [("channel", channel), ("approver_id", n.approverId), ("recipient", n.recipient),
    ("message", n.message)]

end Notice

end InvoiceApproval
