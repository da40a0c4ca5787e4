/-
Conditions as documents.

A condition is written as a record whose field `type` says what kind it is.  It is
read back from such a record, with the fields in any order and unknown fields
passed over, and also from a list that begins with the kind and goes on with the
values of its fields.  In a record a field that is known may be there only once.

A threshold is written as a text, so that no reader takes it for a binary fraction;
it is read from a number as well, by its spelling.

Catalogs and messages are read by the same rules but for two things.  A message is
held until the kind of its condition is known, and of the conditions below the
outermost one it may tell the kind by its place in the list of kinds.
-/
import InvoiceApproval.Condition
import InvoiceApproval.Data.Held

namespace InvoiceApproval

/-! ### The words inside a condition -/

/-- A decimal as it stands in a document: the spelling of a number, a text, or a record
that wraps a number. -/
def Decimal.ofData? : Data → Option Decimal
  | .number literal => Decimal.readLiteral literal
  | .text s => Decimal.readLiteral s
  | .record [(name, .text s)] => if name = Data.numberField then Decimal.readLiteral s else none
  | _ => none

/-- A department as it stands in a document: its exact name. -/
def Department.ofData? (isNothing : Data → Bool) (d : Data) : Option Department :=
  (d.name? isNothing).bind Department.ofName?

namespace Condition

/-- What stands for nothing inside a condition: null, or a record without fields. -/
def isNothing : Data → Bool
  | .null | .record [] => true
  | _ => false

/-- A comparison as it stands in a condition. -/
def comparisonOf? (d : Data) : Option Comparison := (d.name? isNothing).bind Comparison.ofName?

/-- A department as it stands in a condition. -/
def departmentOf? (d : Data) : Option Department := Department.ofData? isNothing d

/-! ### Writing -/

/-- A record of a kind with more fields. -/
private def kindRecord (kind : String) (fields : List (String × Data)) : Data :=
  .record (("type", .text kind) :: fields)

mutual

/-- A condition as a document. -/
def toData : Condition → Data
  | .amount comparison threshold => kindRecord "amount"
      [("operator", .text comparison.name), ("threshold", .text threshold.toText)]
  | .department comparison expected => kindRecord "department"
      [("operator", .text comparison.name), ("department", .text expected.name)]
  | .managerApproval wanted => kindRecord "manager_approval" [("required", .bool wanted)]
  | .all parts => kindRecord "and" [("conditions", .list (toDataList parts))]
  | .any parts => kindRecord "or" [("conditions", .list (toDataList parts))]

/-- A list of conditions as documents. -/
def toDataList : List Condition → List Data
  | [] => []
  | c :: cs => toData c :: toDataList cs

end

/-! ### Reading -/

/-- The kinds of conditions, in the order of their places. -/
def kinds : List String := ["amount", "department", "manager_approval", "and", "or"]

/-- How the kind of a condition is told. -/
inductive KindTag where
  | byName
  /-- By its name, or by its place in the list of kinds. -/
  | byNameOrPlace
deriving DecidableEq, Repr

/-- The kind that is told here. -/
def kind? : KindTag → Data → Option String
  | _, .text kind => some kind
  | .byNameOrPlace, .number literal => (Text.digits? literal.toList).bind (kinds[·]?)
  | _, _ => none

/-- The names of the fields of a kind. -/
def namesOf : String → List String
  | "amount" => ["operator", "threshold"]
  | "department" => ["operator", "department"]
  | "manager_approval" => ["required"]
  | _ => ["conditions"]

/-- A leaf of this kind, given what stands in its two fields. -/
def leaf? (kind : String) (first second : Option Data) : Option Condition :=
  match kind with
  | "amount" => do
    return .amount (← first.bind comparisonOf?) (← second.bind Decimal.ofData?)
  | "department" => do
    return .department (← first.bind comparisonOf?) (← second.bind departmentOf?)
  | _ => none

/-- A branch of this kind. -/
def branch? (kind : String) (parts : Option (List Condition)) : Option Condition :=
  match kind with
  | "and" => parts.map .all
  | "or" => parts.map .any
  | _ => none

/-- A condition of this kind from the fields of a record. -/
def ofFields? (kind : String) (fields : List (String × Data)) (parts : Option (List Condition)) :
    Option Condition :=
  match kind with
  | "amount" => leaf? kind (fields.lookup "operator") (fields.lookup "threshold")
  | "department" => leaf? kind (fields.lookup "operator") (fields.lookup "department")
  | "manager_approval" => ((fields.lookup "required").bind Data.bool?).map .managerApproval
  | _ => branch? kind parts

mutual

/-- The condition that a document holds, given how its kind is told and how the kinds of
the conditions in it are. -/
def read? (tag inner : KindTag) : Data → Option Condition
  | .record fields => do
    let kind ← (fields.lookup "type").bind (kind? tag)
    if ("type" :: namesOf kind).all (Data.isUnrepeated fields) then
      ofFields? kind fields (partsField? inner fields)
    else none
  | .list [k, first, second] => do leaf? (← kind? tag k) (some first) (some second)
  | .list [k, .bool wanted] => do
    if (← kind? tag k) = "manager_approval" then some (.managerApproval wanted) else none
  | .list [k, .list parts] => do branch? (← kind? tag k) (readList? inner parts)
  | _ => none

/-- The conditions in the first field `conditions`. -/
def partsField? (inner : KindTag) : List (String × Data) → Option (List Condition)
  | [] => none
  | (name, d) :: fields => if name = "conditions" then parts? inner d else partsField? inner fields

/-- The conditions in a list. -/
def parts? (inner : KindTag) : Data → Option (List Condition)
  | .list parts => readList? inner parts
  | _ => none

/-- The conditions that a list of documents holds. -/
def readList? (inner : KindTag) : List Data → Option (List Condition)
  | [] => some []
  | d :: ds => do return (← read? inner inner d) :: (← readList? inner ds)

end

/-- The condition of a catalog entry. -/
def ofEntry? (d : Data) : Option Condition := read? .byName .byName d

/-- The condition of a message. -/
def ofMessage? (d : Data) : Option Condition := d.held?.bind (read? .byName .byNameOrPlace)

end Condition

end InvoiceApproval
