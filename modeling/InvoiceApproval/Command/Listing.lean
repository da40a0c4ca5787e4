/-
The commands that list departments and rules.
-/
import InvoiceApproval.Command.Answer

namespace InvoiceApproval

/-- A rule as a line of text. -/
def Rule.line (r : Rule) : String :=
  s!"- [{r.id}] {r.name} (priority {r.priority}, routing {r.routing.name}) -> "
    ++ ", ".intercalate r.approverIds

/-- A configuration as text: its name, and its rules in the order of their declaration. -/
def Configuration.text (c : Configuration) : String :=
  Answer.lines (s!"{c.name} ({c.id}): {c.rules.length} rule(s)" :: c.rules.map Rule.line)

namespace Command

/-- Lists the departments. -/
def departments : Answer := .done (Answer.lines (Department.all.map (·.name)))

/-- Lists the rules that are in force. -/
def rules (w : World) : Answer :=
  match Reference.load w with
  | .error failure => failure.answer "rules"
  | .ok reference => .done reference.catalog.configuration.text

end Command

end InvoiceApproval
