/-
Approvers and rules as documents.

Programs exchange approvers and rules with every field in place.  A catalog, which
people write, may leave out what has a default, but must not name a field that does
not exist.
-/
import InvoiceApproval.Condition.Codec
import InvoiceApproval.Data.Row
import InvoiceApproval.Rule

namespace InvoiceApproval

open Data (Row Strictness)

/-- A priority: a whole number of thirty-two bits. -/
def Rule.priority? (d : Data) : Option Int := d.intBetween? (-2147483648) 2147483647

/-- A routing as it stands in a document: its exact name. -/
def Routing.ofData? (strictness : Strictness) (d : Data) : Option Routing :=
  (d.name? strictness.isNothing).bind Routing.ofName?

namespace Approver

/-- An approver as a document. -/
def toData (a : Approver) : Data :=
  .record [
    ("id", .text a.id), ("name", .text a.name), ("email", .text a.email),
    ("department", Data.textOrNull (a.department.map (·.name))),
    ("is_manager", .bool a.isManager)]

/-- The fields of an approver, in the order in which they are listed. -/
def fieldNames : List String := ["id", "name", "email", "department", "is_manager"]

/-- The approver that a document holds. -/
def ofData? (strictness : Strictness) (d : Data) : Option Approver := do
  let row ← Row.of? strictness fieldNames d
  return {
    id := ← row.required 0 "id" Data.text?
    name := ← row.required 1 "name" Data.text?
    email := ← row.required 2 "email" Data.text?
    department := ← row.optional 3 "department" (Department.ofData? strictness.isNothing)
    isManager := ← row.defaulted 4 "is_manager" false Data.bool? }

end Approver

namespace Rule

/-- A rule as a document. -/
def toData (r : Rule) : Data :=
  .record [
    ("id", .text r.id), ("name", .text r.name), ("description", .text r.description),
    ("condition", r.condition.toData), ("approver_ids", Data.texts r.approverIds),
    ("priority", Data.int r.priority), ("routing", .text r.routing.name)]

/-- The fields of a rule, in the order in which they are listed. -/
def fieldNames : List String :=
  ["id", "name", "description", "condition", "approver_ids", "priority", "routing"]

/-- The rule that a message holds: every field has to be there. -/
def ofMessage? (d : Data) : Option Rule := do
  let row ← Row.of? .message fieldNames d
  return {
    id := ← row.required 0 "id" Data.text?
    name := ← row.required 1 "name" Data.text?
    description := ← row.required 2 "description" Data.text?
    condition := ← row.required 3 "condition" Condition.ofMessage?
    approverIds := ← row.required 4 "approver_ids" Data.texts?
    priority := ← row.required 5 "priority" priority?
    routing := ← row.required 6 "routing" (Routing.ofData? .message) }

/-- The rule that a catalog entry holds.  Where the routing is left out, the display
name tells it. -/
def ofEntry? (d : Data) : Option Rule := do
  let row ← Row.of? .reference fieldNames d
  let name ← row.required 1 "name" Data.text?
  let routing ← row.optional 6 "routing" (Routing.ofData? .reference)
  return {
    id := ← row.required 0 "id" Data.text?
    name
    description := ← row.defaulted 2 "description" "" Data.text?
    condition := ← row.required 3 "condition" Condition.ofEntry?
    approverIds := ← row.defaulted 4 "approver_ids" [] Data.texts?
    priority := ← row.defaulted 5 "priority" 0 priority?
    routing := routing.getD (Routing.ofDisplayName name) }

end Rule

namespace Configuration

/-- A configuration as a document. -/
def toData (c : Configuration) : Data :=
  .record [("id", .text c.id), ("name", .text c.name), ("rules", .list (c.rules.map Rule.toData))]

/-- The configuration that a message holds. -/
def ofMessage? (d : Data) : Option Configuration := do
  let row ← Row.of? .message ["id", "name", "rules"] d
  return {
    id := ← row.required 0 "id" Data.text?
    name := ← row.required 1 "name" Data.text?
    rules := ← row.required 2 "rules" fun d => d.list?.bind (·.mapM Rule.ofMessage?) }

end Configuration

end InvoiceApproval
