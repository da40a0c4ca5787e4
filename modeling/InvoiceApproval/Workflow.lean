/-
The approval workflow.

One request runs through three steps: the rules that hold of it are found, the
first of them selects approvers, and each of those is notified.  The stores are
asked before anybody is notified, so a run that fails has sent nothing.

No rule that holds, or no candidate that is known, is no failure: nobody is
notified, and the log says why.
-/
import InvoiceApproval.Notifier
import InvoiceApproval.Rule

namespace InvoiceApproval

/-! ### Events of a run -/

namespace ApprovalRequest

/-- The particulars of a request in the log. -/
def details (r : ApprovalRequest) : List (String × String) :=
  [("amount", r.amount.toText), ("department", r.department.name),
    ("requires_manager_approval", Text.ofBool r.requiresManagerApproval)]

/-- A run has begun. -/
def startedEvent (r : ApprovalRequest) : Event :=
  ⟨.info, "executing approval workflow", "workflow.execute.start", r.details⟩

/-- No rule holds of the request. -/
def unmatchedEvent (r : ApprovalRequest) : Event :=
  ⟨.warn, "no workflow rule matched request", "workflow.rules.none_matched", r.details⟩

end ApprovalRequest

/-- The rules of a configuration have been matched. -/
def Configuration.matchedEvent (c : Configuration) (matched : List Rule) : Event :=
  ⟨.info, "matched workflow rules", "workflow.rules.matched",
    [("configuration_id", c.id), ("matched", toString matched.length)]⟩

/-- Some approvers of a rule are not in the directory. -/
def Rule.unresolvedEvent (rule : Rule) (resolved : List Approver) : Event :=
  ⟨.debug, "some approver ids on rule are not in the directory", "workflow.approvers.unresolved",
    [("rule_id", rule.id), ("requested", toString rule.approverIds.length),
      ("resolved", toString resolved.length)]⟩

/-- Approvers have been selected. -/
def selectedEvent (selected : List Approver) : Event :=
  ⟨.info, "selected approvers", "workflow.approvers.selected",
    [("selected", toString selected.length),
      ("approvers", Text.quotedList (selected.map (·.name)))]⟩

/-! ### The run -/

/-- The approvers that a request goes to, given the rules that hold of it in the order in
which they are tried.  Only the first of them counts. -/
def selectApprovers (directory : Source Directory) (r : ApprovalRequest) (matched : List Rule) :
    Desk (List Approver) := do
  match matched with
  | [] =>
    tell r.unmatchedEvent
    return []
  | rule :: _ =>
    let directory ← directory.ask
    let resolved := directory.resolve rule.approverIds
    if resolved.length < rule.approverIds.length then
      tell (rule.unresolvedEvent resolved)
    return rule.routing.route r resolved

/-- What a run has decided. -/
structure Outcome where
  request : ApprovalRequest
  selected : List Approver
  confirmations : List String
  rulesApplied : List String

/-- Everything that a run needs besides its request. -/
structure Engine where
  rules : Source Configuration
  directory : Source Directory
  notifier : Notifier

namespace Engine

/-- Runs one request. -/
def execute (e : Engine) (r : ApprovalRequest) : Desk Outcome := do
  tell r.startedEvent
  let configuration ← e.rules.ask
  let matched := Rule.matching configuration.rules r
  tell (configuration.matchedEvent matched)
  let selected ← selectApprovers e.directory r matched
  tell (selectedEvent selected)
  let confirmations ← e.notifier.notifyAll r selected
  return ⟨r, selected, confirmations, matched.map (·.name)⟩

/-- Runs one request on a journal: what came of it, and the journal afterwards. -/
def run (e : Engine) (r : ApprovalRequest) (j : Journal) :
    Except CatalogError Outcome × Journal :=
  (e.execute r).run j

/-- Runs requests one after the other on one journal. -/
def runAll (e : Engine) (j : Journal) : List ApprovalRequest →
    List (Except CatalogError Outcome) × Journal
  | [] => ([], j)
  | r :: rs =>
    let (result, j) := e.run r j
    let (results, j) := e.runAll j rs
    (result :: results, j)

end Engine

end InvoiceApproval
