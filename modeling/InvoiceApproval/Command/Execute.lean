/-
The command that runs one request.

The reference data are loaded before the request is looked at.  Nobody is told
anything: the notices go into an outbox, and the command shows what is in it.
-/
import InvoiceApproval.Command.Answer
import InvoiceApproval.Response

namespace InvoiceApproval

/-- An approver as a line of text. -/
def Approver.line (a : Approver) : String :=
  let department := (a.department.map (·.name)).getD "ORG-WIDE"
  let role := if a.isManager then "manager" else "employee"
  s!"- {a.name} <{a.email}> ({department}, {role})"

/-- A notice as a line of text. -/
def Notice.line (n : Notice) : String := s!"- to {n.recipient}: {n.message}"

/-- The names of the rules that hold of a request. -/
def Response.rulesText (r : Response) : String :=
  if r.rulesApplied.isEmpty then "none" else ", ".intercalate r.rulesApplied

/-- The lines of text that show a person a response and the notices that were sent. -/
def Response.lines (r : Response) (channel : String) (sent : List Notice) : List String :=
  [r.message,
    s!"invoice: amount={r.amount.toText} department={r.department.name} "
      ++ s!"requires_manager_approval={Text.ofBool r.requiresManagerApproval}",
    s!"rules applied: {r.rulesText}",
    "approvers:"]
  ++ r.selected.map Approver.line
  ++ [s!"outbox ({channel}):"]
  ++ sent.map Notice.line

/-- A response and the notices that were sent, as text for a person. -/
def Response.text (r : Response) (channel : String) (sent : List Notice) : String :=
  Answer.lines (r.lines channel sent)

namespace Command

/-- What a person has typed about an invoice. -/
structure Invoice where
  amount : String
  department : String
  requiresManagerApproval : Bool
deriving DecidableEq, Repr

/-- The request that a person means. -/
def Invoice.request (i : Invoice) : Except ValidationError ApprovalRequest :=
  ApprovalRequest.ofTyped i.amount i.department i.requiresManagerApproval

/-- Runs the request: the settings, the response, and the notices in the outbox. -/
def runInvoice (w : World) (i : Invoice) :
    Except CommandFailure (Settings × Response × List Notice) := do
  let reference ← Reference.load w
  let request ← i.request.mapError fun cause => .ofFailure (.validation cause)
  let (result, journal) := (reference.catalog.engine .outbox).run request Journal.empty
  let outcome ← result.mapError fun cause => .ofFailure (.catalog cause)
  return (reference.settings, Response.ofOutcome outcome, journal.outbox)

/-- Runs one request and shows what came of it. -/
def execute (w : World) (i : Invoice) (json : Bool) : Answer :=
  match runInvoice w i with
  | .error failure => failure.answer "execute"
  | .ok (settings, response, sent) =>
    if json then
      match response.toIndentedJson? with
      | .error reason => (CommandFailure.unwritable reason).answer "execute"
      | .ok output => .done output
    else .done (response.text settings.channel sent)

end Command

end InvoiceApproval
