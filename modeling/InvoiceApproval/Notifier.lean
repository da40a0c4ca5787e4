/-
Notifiers.

No message leaves the program: a notice is either put into an outbox, where a caller
can look at it, or told as an event on a channel.  Both say the same, and both
answer with the same confirmation.
-/
import InvoiceApproval.Journal

namespace InvoiceApproval

/-- Where notices go. -/
inductive Notifier where
  /-- Into the outbox. -/
  | outbox
  /-- Into the event log, on this channel. -/
  | log (channel : String)

namespace Notifier

/-- The channel that is used when none is named. -/
def defaultChannel : String := "slack"

/-- Tells one approver about a request and confirms it. -/
def notify (n : Notifier) (r : ApprovalRequest) (a : Approver) : StateM Journal String := do
  match n with
  | outbox => modify (·.send (Notice.about r a))
  | log channel => tell ((Notice.about r a).event channel)
  return Notice.confirmation a

/-- Tells several approvers about a request, one after the other. -/
def notifyAll (n : Notifier) (r : ApprovalRequest) (as : List Approver) :
    StateM Journal (List String) :=
  as.mapM (n.notify r)

end Notifier

end InvoiceApproval
