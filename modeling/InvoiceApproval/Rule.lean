/-
Rules and their order.

A rule pairs a condition with the approvers that a request goes to.  The rules that
hold of a request are tried by priority, lower values first, and in the order of
their declaration where priorities are equal.
-/
import InvoiceApproval.Condition
import InvoiceApproval.Routing

namespace InvoiceApproval

/-- A rule of the approval policy. -/
structure Rule where
  id : String
  name : String
  description : String
  condition : Condition
  approverIds : List String
  /-- Lower values take precedence. -/
  priority : Int
  routing : Routing
deriving DecidableEq

namespace Rule

/-- Whether a rule may be tried before another by its priority. -/
def precedes (a b : Rule) : Bool := a.priority ≤ b.priority

/-- The rules that hold of a request, in the order in which they are tried. -/
def matching (rules : List Rule) (r : ApprovalRequest) : List Rule :=
  (rules.filter fun rule => rule.condition.holds r).mergeSort precedes

end Rule

/-- A named list of rules. -/
structure Configuration where
  id : String
  name : String
  rules : List Rule
deriving DecidableEq

/-- The first rule of this id. -/
def Configuration.rule? (c : Configuration) (id : String) : Option Rule :=
  c.rules.find? (·.id == id)

end InvoiceApproval
