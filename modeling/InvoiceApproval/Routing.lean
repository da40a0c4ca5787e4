/-
Routing.

A rule lists candidate approvers, and its routing says which of them a request goes
to: the managers or the other members of the request's department, or everybody.
A narrowing routing never comes out empty while a candidate of its role is left: if
the department has none, the first one listed takes the request.

A catalog may leave the routing of a rule out.  It is then read off the rule's
display name by looking for key phrases.
-/
import InvoiceApproval.Approver
import InvoiceApproval.Request

namespace InvoiceApproval

/-- Which of a rule's candidates a request goes to. -/
inductive Routing where
  /-- The managers of the request's department, else the first manager listed. -/
  | managerInDepartment
  /-- The other members of the request's department, else the first one listed. -/
  | nonManagerInDepartment
  /-- Every candidate. -/
  | unfiltered
deriving DecidableEq, Repr

namespace Routing

/-- Every routing. -/
def all : List Routing := [managerInDepartment, nonManagerInDepartment, unfiltered]

/-- The name of a routing. -/
def name : Routing → String
  | managerInDepartment => "manager_in_department"
  | nonManagerInDepartment => "non_manager_in_department"
  | unfiltered => "unfiltered"

/-- The routing of this name. -/
def ofName? (s : String) : Option Routing := all.find? (·.name == s)

theorem ofName?_name (k : Routing) : ofName? k.name = some k := by
  cases k <;> rfl

/-! ### Reading the routing off a name -/

/-- The phrases that speak of a manager. -/
def managerPhrases : List String := ["department manager", "low amount with manager"]

/-- The phrases that speak of somebody else. -/
def nonManagerPhrases : List String := ["employee", "low amount without manager"]

/-- Whether one of the phrases stands in a lower-cased name. -/
def mentions (phrases : List String) (lowered : List Char) : Bool :=
  phrases.any fun p => Text.occursIn p.toList lowered

/-- The routing that a display name tells of.  A phrase that speaks of a manager goes
before one that does not. -/
def ofDisplayName (name : String) : Routing :=
  let lowered := Text.lowered name.toList
  if mentions managerPhrases lowered then managerInDepartment
  else if mentions nonManagerPhrases lowered then nonManagerInDepartment
  else unfiltered

/-! ### Narrowing the candidates -/

/-- The candidates of a role in a department, else the first candidate of the role. -/
def narrow (isManager : Bool) (department : Department) (candidates : List Approver) :
    List Approver :=
  let ofRole := candidates.filter (·.isManager == isManager)
  match ofRole.filter (·.belongsTo department) with
  | [] => ofRole.take 1
  | ofDepartment => ofDepartment

/-- The candidates that a request goes to. -/
def route (k : Routing) (r : ApprovalRequest) (candidates : List Approver) : List Approver :=
  match k with
  | managerInDepartment => narrow true r.department candidates
  | nonManagerInDepartment => narrow false r.department candidates
  | unfiltered => candidates

end Routing

end InvoiceApproval
