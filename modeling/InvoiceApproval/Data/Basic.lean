/-
Documents as data.

Requests and responses travel as JSON, catalogs and settings are kept as TOML, and
both say the same kinds of things: truth values, numbers, texts, lists and records.
`Data` is what is left of a document when its notation is gone.

A number keeps its spelling.  An amount is a decimal and must not pass through a
binary fraction, so whoever reads a number out of a document reads its digits.

The fields of a record keep the order in which they were written.
-/
namespace InvoiceApproval

/-- The content of a document. -/
inductive Data where
  | null
  | bool (value : Bool)
  | number (literal : String)
  | text (value : String)
  | list (items : List Data)
  | record (fields : List (String × Data))
deriving Inhabited

namespace Data

/-- A whole number. -/
def int (n : Int) : Data := .number (toString n)

/-- A text, or nothing. -/
def textOrNull : Option String → Data
  | some s => .text s
  | none => .null

/-- The name of the field in which the spelling of a number may be wrapped: a record with
this field alone stands for the number. -/
def numberField : String := "$serde_json::private::Number"

/-- A list of texts. -/
def texts (items : List String) : Data := .list (items.map .text)

/-! ### Looking into a document -/

/-- The first field of this name. -/
def field? (d : Data) (name : String) : Option Data :=
  match d with
  | .record fields => fields.lookup name
  | _ => none

/-- Whether no field of this name is there twice. -/
def isUnrepeated (fields : List (String × Data)) (name : String) : Bool :=
  (fields.filter (·.1 == name)).length ≤ 1

/-- The text that stands here. -/
def text? : Data → Option String
  | .text s => some s
  | _ => none

/-- The truth value that stands here. -/
def bool? : Data → Option Bool
  | .bool b => some b
  | _ => none

/-- The list that stands here. -/
def list? : Data → Option (List Data)
  | .list items => some items
  | _ => none

/-- The list of texts that stands here. -/
def texts? (d : Data) : Option (List String) := do
  (← d.list?).mapM text?

/-- Whether nothing is written here. -/
def isNull : Data → Bool
  | .null => true
  | _ => false

/-- Whether this is a list or a record with nothing in it. -/
def isEmpty : Data → Bool
  | .list [] | .record [] => true
  | _ => false

/-- The name that stands here: a text, or the name of a field that is alone in its record
and has nothing for its value.  Documents differ in what they write for nothing. -/
def name? (isNothing : Data → Bool) : Data → Option String
  | .text s => some s
  | .record [(name, d)] => if isNothing d then some name else none
  | _ => none

/-- Reads a whole number: an optional minus sign and digits. -/
def readInt (literal : String) : Option Int :=
  let (negative, ds) := match literal.toList with
    | '-' :: ds => (true, ds)
    | ds => (false, ds)
  if !ds.isEmpty && ds.all Char.isDigit then
    let n := ds.foldl (fun n c => n * 10 + (c.toNat - '0'.toNat)) 0
    some (if negative then -(n : Int) else n)
  else none

/-- The whole number between two bounds, both included, that stands here. -/
def intBetween? (low high : Int) : Data → Option Int
  | .number literal => (readInt literal).filter fun n => low ≤ n && n ≤ high
  | _ => none

end Data

end InvoiceApproval
