/-
Answers to requests that were carried out.

A response says what was decided: the approvers selected, the confirmations of their
notices, and the names of the rules that hold, with the request beside them.  The
amount is written as a bare number with every digit of the request, so a reader that
keeps the digits gets the amount back.  Whoever writes a response checks that the text of
its amount makes a number.
-/
import InvoiceApproval.Data.JsonReader
import InvoiceApproval.Data.JsonWriter
import InvoiceApproval.Rule.Codec
import InvoiceApproval.Workflow

namespace InvoiceApproval

open Data (Row Strictness)

/-- What a caller is told about a run. -/
structure Response where
  success : Bool
  amount : Decimal
  department : Department
  requiresManagerApproval : Bool
  selected : List Approver
  confirmations : List String
  rulesApplied : List String
  message : String
deriving DecidableEq

namespace Response

/-- The response to a run. -/
def ofOutcome (o : Outcome) : Response where
  success := true
  amount := o.request.amount
  department := o.request.department
  requiresManagerApproval := o.request.requiresManagerApproval
  selected := o.selected
  confirmations := o.confirmations
  rulesApplied := o.rulesApplied
  message := s!"Workflow executed successfully. {o.selected.length} approver(s) notified."

/-! ### Writing -/

/-- An approver in a response. -/
def approverToData (a : Approver) : Data :=
  .record [
    ("id", .text a.id), ("name", .text a.name), ("email", .text a.email),
    ("department", Data.textOrNull (a.department.map (·.name))),
    ("isManager", .bool a.isManager)]

/-- A response as a document. -/
def toData (r : Response) : Data :=
  .record [
    ("success", .bool r.success), ("amount", .number r.amount.toText),
    ("department", .text r.department.name),
    ("requiresManagerApproval", .bool r.requiresManagerApproval),
    ("selectedApprovers", .list (r.selected.map approverToData)),
    ("notificationsSent", Data.texts r.confirmations),
    ("rulesApplied", Data.texts r.rulesApplied), ("message", .text r.message)]

/-- What is told of a response that cannot be written. -/
def unwritableText : String := "<json error>"

/-- A response as JSON over several lines, if the text of its amount makes a number. -/
def toIndentedJson? (r : Response) : Except String String :=
  if Scan.isNumber r.amount.toText then .ok r.toData.toIndentedJson
  else .error unwritableText

/-! ### Reading -/

/-- The approver that stands in a response. -/
def approverOfData? (d : Data) : Option Approver := do
  let row ← Row.of? .message ["id", "name", "email", "department", "isManager"] d
  return {
    id := ← row.required 0 "id" Data.text?
    name := ← row.required 1 "name" Data.text?
    email := ← row.required 2 "email" Data.text?
    department := ← row.optional 3 "department" (Department.ofData? Strictness.message.isNothing)
    isManager := ← row.required 4 "isManager" Data.bool? }

/-- The fields of a response, in their order. -/
def fieldNames : List String :=
  ["success", "amount", "department", "requiresManagerApproval", "selectedApprovers",
    "notificationsSent", "rulesApplied", "message"]

/-- The response that a document holds. -/
def ofData? (d : Data) : Option Response := do
  let row ← Row.of? .message fieldNames d
  return {
    success := ← row.required 0 "success" Data.bool?
    amount := ← row.required 1 "amount" Decimal.ofData?
    department := ← row.required 2 "department" (Department.ofData? Strictness.message.isNothing)
    requiresManagerApproval := ← row.required 3 "requiresManagerApproval" Data.bool?
    selected := ← row.required 4 "selectedApprovers" fun d => d.list?.bind (·.mapM approverOfData?)
    confirmations := ← row.required 5 "notificationsSent" Data.texts?
    rulesApplied := ← row.required 6 "rulesApplied" Data.texts?
    message := ← row.required 7 "message" Data.text? }

end Response

/-! ### Other answers -/

/-- The departments as a document. -/
def Department.listingData : Data :=
  .record [("departments", Data.texts (Department.all.map (·.name)))]

/-- A rule as it is shown to callers: without its condition. -/
def Rule.summaryData (r : Rule) : Data :=
  .record [
    ("id", .text r.id), ("name", .text r.name), ("description", .text r.description),
    ("priority", Data.int r.priority), ("approverIds", Data.texts r.approverIds),
    ("routing", .text r.routing.name)]

end InvoiceApproval
