/-
Requests in the body of a message.

A body is JSON: a record with the three fields of a request, or a list of their
values in that order.  Fields that are not known do no harm, but one that is known
may be there only once.

A body can be wrong in two ways, and which of them is told is decided by what comes
first in the text: a value of the wrong shape, or the place where the text stops
being JSON.  So the fields are taken from the scan one by one, from the left.
-/
import InvoiceApproval.Data.JsonReader
import InvoiceApproval.Request

namespace InvoiceApproval

/-- Why a body cannot be read. -/
inductive BodyFault where
  /-- The text is not JSON. -/
  | notJson
  /-- The text is JSON up to a value that has the wrong shape, or lacks a field. -/
  | misfit
deriving DecidableEq, Repr

/-- A request as it stands in a body: nobody has looked at its department yet, nor at the
sign of its amount. -/
structure RequestBody where
  amount : Decimal
  department : String
  requiresManagerApproval : Bool
deriving DecidableEq

namespace RequestBody

/-! ### The three values -/

/-- A value, if the text has the right shape. -/
def fit {α : Type} : Option α → Except BodyFault α
  | some a => .ok a
  | none => .error .misfit

/-- The amount of which the spelling is wrapped in a record, given what follows it there:
the record has to end behind it. -/
def wrappedAmountOf (v : Scan) (rest : List (Option String × Scan)) :
    Except BodyFault Decimal := do
  match v with
  | .text (some s) =>
    let amount ← fit (Decimal.readLiteral s)
    if rest.isEmpty then return amount else throw .notJson
  | .text none | .cut => throw .notJson
  | _ => throw .misfit

/-- The amount: a number by its spelling, a text, or a record that wraps a number.  Of any
other record the first name is looked at before the record is refused. -/
def amountOf : Scan → Except BodyFault Decimal
  | .number literal => fit (Decimal.readLiteral literal)
  | .text (some s) => fit (Decimal.readLiteral s)
  | .record ((some name, v) :: rest) =>
    if name = Data.numberField then wrappedAmountOf v rest else .error .misfit
  | .text none | .cut | .record ((none, _) :: _) => .error .notJson
  | _ => .error .misfit

/-- The text of the department. -/
def departmentOf : Scan → Except BodyFault String
  | .text (some s) => .ok s
  | .text none | .cut => .error .notJson
  | _ => .error .misfit

/-- Whether a manager has to approve. -/
def flagOf : Scan → Except BodyFault Bool
  | .bool b => .ok b
  | .text none | .cut => .error .notJson
  | _ => .error .misfit

/-! ### A record of fields -/

/-- The fields that have been met so far. -/
structure Parts where
  amount : Option Decimal
  department : Option String
  requiresManagerApproval : Option Bool

/-- A known field may be met once. -/
def once {α : Type} (met : Option α) (value : Except BodyFault α) : Except BodyFault (Option α) :=
  match met with
  | some _ => .error .misfit
  | none => value.map some

/-- Takes one more field. -/
def takeField (p : Parts) : Option String × Scan → Except BodyFault Parts
  | (none, _) => .error .notJson
  | (some name, v) =>
    match name with
    | "amount" => do return { p with amount := ← once p.amount (amountOf v) }
    | "department" => do return { p with department := ← once p.department (departmentOf v) }
    | "requiresManagerApproval" => do
      return { p with
        requiresManagerApproval := ← once p.requiresManagerApproval (flagOf v) }
    | _ => if v.isCut then .error .notJson else .ok p

/-- The body, once every field has been met. -/
def complete : Parts → Except BodyFault RequestBody
  | ⟨some amount, some department, some flag⟩ => .ok ⟨amount, department, flag⟩
  | _ => .error .misfit

/-- The body that a record holds. -/
def ofFields (fields : List (Option String × Scan)) : Except BodyFault RequestBody := do
  complete (← fields.foldlM takeField ⟨none, none, none⟩)

/-! ### A list of values -/

/-- The next value of a list. -/
def takeItem {α : Type} (read : Scan → Except BodyFault α) :
    List Scan → Except BodyFault (α × List Scan)
  | [] => .error .misfit
  | v :: vs => (read v).map fun a => (a, vs)

/-- The body that a list holds; nothing may follow its third value. -/
def ofItems (items : List Scan) : Except BodyFault RequestBody := do
  let (amount, items) ← takeItem amountOf items
  let (department, items) ← takeItem departmentOf items
  let (flag, items) ← takeItem flagOf items
  if items.isEmpty then return ⟨amount, department, flag⟩ else throw .notJson

/-! ### The body -/

/-- The body that a scan holds. -/
def ofScan : Scan → Except BodyFault RequestBody
  | .record fields => ofFields fields
  | .list items => ofItems items
  | .text none | .cut => .error .notJson
  | _ => .error .misfit

/-- The body that the scan of a whole text holds.  What follows the value is looked at
last. -/
def ofWhole : Scan × Bool → Except BodyFault RequestBody
  | (v, ended) => do
    let body ← ofScan v
    if ended then return body else throw .notJson

/-- Reads a body that is a text. -/
def read (s : String) : Except BodyFault RequestBody := ofWhole (Scan.ofChars s.toList)

/-- Reads a body as it arrives. -/
def readBytes (bytes : List UInt8) : Except BodyFault RequestBody :=
  ofWhole (Scan.ofBytes bytes)

/-- The request that a body asks for. -/
def request (b : RequestBody) : Except ValidationError ApprovalRequest :=
  ApprovalRequest.ofParts b.amount b.department b.requiresManagerApproval

end RequestBody

end InvoiceApproval
