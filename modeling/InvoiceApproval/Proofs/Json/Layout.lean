/-
Documents on their way through JSON.

A document is written in one of two layouts, with no blanks at all or with a line for
each item and field.  The two differ in nothing but the blanks, so both are one layout
with the blanks left open (`Layout`), and what is read back is a law about that one.

The law is an induction on the document, with one case for each kind of value and a
step for each item and field.  What carries it is that a scan takes exactly what was
written and stops there, whatever follows, as long as no value could go on with it.  The
steps that a scan is given do not matter as soon as there are twice as many as
characters.
-/
import InvoiceApproval.Proofs.Json.Number
import InvoiceApproval.Proofs.Json.Text

namespace InvoiceApproval

/-! ### One layout -/

/-- The blanks of a layout: those in front of an item or a field, and those before a
closing bracket, at each depth, and those behind a colon. -/
structure Layout where
  gap : Nat → List Char
  afterColon : List Char
  gap_blank : ∀ depth, ∀ c ∈ gap depth, Scan.isJsonBlank c = true
  afterColon_blank : ∀ c ∈ afterColon, Scan.isJsonBlank c = true

namespace Layout

open Data (quoted newLine)

/-- No blanks. -/
def compact : Layout := ⟨fun _ => [], [], by simp, by simp⟩

/-- A line for each item and field, and a space behind each colon. -/
def indented : Layout where
  gap := newLine
  afterColon := [' ']
  gap_blank := by
    intro depth c hc
    rcases List.mem_cons.1 hc with rfl | hc
    · rfl
    · rw [(List.mem_replicate.1 hc).2]
      rfl
  afterColon_blank := by simp [Scan.isJsonBlank]

variable (l : Layout)

mutual

/-- A document in a layout. -/
def valueChars (depth : Nat) : Data → List Char
  | .list [] => ['[', ']']
  | .list items => '[' :: (itemChars (depth + 1) items ++ l.gap depth ++ [']'])
  | .record [] => ['{', '}']
  | .record fields => '{' :: (fieldChars (depth + 1) fields ++ l.gap depth ++ ['}'])
  | .null => ['n', 'u', 'l', 'l']
  | .bool true => ['t', 'r', 'u', 'e']
  | .bool false => ['f', 'a', 'l', 's', 'e']
  | .number literal => literal.toList
  | .text s => quoted s

/-- The items of a list in a layout. -/
def itemChars (depth : Nat) : List Data → List Char
  | [] => []
  | [d] => l.gap depth ++ valueChars depth d
  | d :: ds => l.gap depth ++ valueChars depth d ++ ',' :: itemChars depth ds

/-- The fields of a record in a layout. -/
def fieldChars (depth : Nat) : List (String × Data) → List Char
  | [] => []
  | [(k, d)] => l.gap depth ++ quoted k ++ ':' :: (l.afterColon ++ valueChars depth d)
  | (k, d) :: fields =>
    l.gap depth ++ quoted k ++ ':' :: (l.afterColon ++ valueChars depth d)
      ++ ',' :: fieldChars depth fields

end

/-! ### What is written, taken apart in front of what follows it -/

theorem valueChars_list (depth : Nat) (d : Data) (ds : List Data) (rest : List Char) :
    l.valueChars depth (.list (d :: ds)) ++ rest
      = '[' :: (l.itemChars (depth + 1) (d :: ds) ++ (l.gap depth ++ ']' :: rest)) := by
  simp [valueChars]

theorem valueChars_record (depth : Nat) (f : String × Data) (fs : List (String × Data))
    (rest : List Char) :
    l.valueChars depth (.record (f :: fs)) ++ rest
      = '{' :: (l.fieldChars (depth + 1) (f :: fs) ++ (l.gap depth ++ '}' :: rest)) := by
  simp [valueChars]

theorem itemChars_one (depth : Nat) (d : Data) (rest : List Char) :
    l.itemChars depth [d] ++ rest = l.gap depth ++ (l.valueChars depth d ++ rest) := by
  simp [itemChars]

theorem itemChars_more (depth : Nat) (d d' : Data) (ds : List Data) (rest : List Char) :
    l.itemChars depth (d :: d' :: ds) ++ rest = l.gap depth
      ++ (l.valueChars depth d ++ ',' :: (l.itemChars depth (d' :: ds) ++ rest)) := by
  simp [itemChars]

theorem fieldChars_one (depth : Nat) (k : String) (d : Data) (rest : List Char) :
    l.fieldChars depth [(k, d)] ++ rest = l.gap depth
      ++ (quoted k ++ ':' :: (l.afterColon ++ (l.valueChars depth d ++ rest))) := by
  simp [fieldChars]

theorem fieldChars_more (depth : Nat) (k : String) (d : Data) (f : String × Data)
    (fs : List (String × Data)) (rest : List Char) :
    l.fieldChars depth ((k, d) :: f :: fs) ++ rest = l.gap depth
      ++ (quoted k ++ ':' :: (l.afterColon
        ++ (l.valueChars depth d ++ ',' :: (l.fieldChars depth (f :: fs) ++ rest)))) := by
  simp [fieldChars]

/-! ### The two layouts that are written -/

mutual

theorem compactChars_eq (depth : Nat) : (d : Data) → d.compactChars = compact.valueChars depth d
  | .list [] | .record [] | .null | .bool true | .bool false | .number _ | .text _ => rfl
  | .list (d :: ds) => by
    show '[' :: (Data.compactItems (d :: ds) ++ [']']) = _
    rw [compactItems_eq (depth + 1)]
    simp [valueChars, compact]
  | .record (f :: fs) => by
    show '{' :: (Data.compactFields (f :: fs) ++ ['}']) = _
    rw [compactFields_eq (depth + 1)]
    simp [valueChars, compact]

theorem compactItems_eq (depth : Nat) :
    (ds : List Data) → Data.compactItems ds = compact.itemChars depth ds
  | [] => rfl
  | [d] => compactChars_eq depth d
  | d :: d' :: ds => by
    rw [Data.compactItems, compactChars_eq depth d, compactItems_eq depth (d' :: ds)]
    · rfl
    · simp

theorem compactFields_eq (depth : Nat) :
    (fs : List (String × Data)) → Data.compactFields fs = compact.fieldChars depth fs
  | [] => rfl
  | [(k, d)] => by
    rw [Data.compactFields, compactChars_eq depth d]
    rfl
  | (k, d) :: f :: fs => by
    rw [Data.compactFields, compactChars_eq depth d, compactFields_eq depth (f :: fs)]
    · simp [fieldChars, compact]
    · simp

end

mutual

theorem indentedChars_eq (depth : Nat) :
    (d : Data) → d.indentedChars depth = indented.valueChars depth d
  | .list [] | .record [] | .null | .bool true | .bool false | .number _ | .text _ => rfl
  | .list (d :: ds) => by
    show '[' :: (Data.indentedItems (depth + 1) (d :: ds) ++ newLine depth ++ [']']) = _
    rw [indentedItems_eq (depth + 1)]
    rfl
  | .record (f :: fs) => by
    show '{' :: (Data.indentedFields (depth + 1) (f :: fs) ++ newLine depth ++ ['}']) = _
    rw [indentedFields_eq (depth + 1)]
    rfl

theorem indentedItems_eq (depth : Nat) :
    (ds : List Data) → Data.indentedItems depth ds = indented.itemChars depth ds
  | [] => rfl
  | [d] => by
    rw [Data.indentedItems, indentedChars_eq depth d]
    rfl
  | d :: d' :: ds => by
    rw [Data.indentedItems, indentedChars_eq depth d, indentedItems_eq depth (d' :: ds)]
    · rfl
    · simp

theorem indentedFields_eq (depth : Nat) :
    (fs : List (String × Data)) → Data.indentedFields depth fs = indented.fieldChars depth fs
  | [] => rfl
  | [(k, d)] => by
    rw [Data.indentedFields, indentedChars_eq depth d]
    rfl
  | (k, d) :: f :: fs => by
    rw [Data.indentedFields, indentedChars_eq depth d, indentedFields_eq depth (f :: fs)]
    · rfl
    · simp

end

end Layout

/-! ### Documents that can be written -/

namespace Data

mutual

/-- The scan of a document, all of it made out. -/
def toScan : Data → Scan
  | .null => .null
  | .bool b => .bool b
  | .number literal => .number literal
  | .text s => .text (some s)
  | .list items => .list (itemScans items)
  | .record fields => .record (fieldScans fields)

/-- The scans of the items of a list. -/
def itemScans : List Data → List Scan
  | [] => []
  | d :: ds => toScan d :: itemScans ds

/-- The scans of the fields of a record. -/
def fieldScans : List (String × Data) → List (Option String × Scan)
  | [] => []
  | (k, d) :: fields => (some k, toScan d) :: fieldScans fields

end

mutual

/-- Whether a document can be written in JSON: every number in it is one, and no record in
it would be taken for a number that it wraps. -/
def Writable : Data → Prop
  | .number literal => Scan.scanNumber literal.toList = some (literal.toList, [])
  | .list items => ItemsWritable items
  | .record fields => FieldsWritable fields ∧ Scan.unwrap fields = .record fields
  | .null | .bool _ | .text _ => True

/-- Whether every item of a list can be written. -/
def ItemsWritable : List Data → Prop
  | [] => True
  | d :: ds => Writable d ∧ ItemsWritable ds

/-- Whether every field of a record can be written. -/
def FieldsWritable : List (String × Data) → Prop
  | [] => True
  | (_, d) :: fields => Writable d ∧ FieldsWritable fields

end

mutual

/-- A document is what its scan holds. -/
theorem data?_toScan : (d : Data) → d.Writable → d.toScan.data? = some d
  | .null, _ | .bool _, _ | .number _, _ | .text _, _ => rfl
  | .list items, h => by
    rw [toScan, Scan.data?, dataList?_itemScans items h]
    rfl
  | .record fields, h => by
    rw [toScan, Scan.data?, dataFields?_fieldScans fields h.1]
    exact congrArg some h.2

theorem dataList?_itemScans :
    (items : List Data) → ItemsWritable items → Scan.dataList? (itemScans items) = some items
  | [], _ => rfl
  | d :: ds, h => by
    rw [itemScans, Scan.dataList?, data?_toScan d h.1, dataList?_itemScans ds h.2]
    rfl

theorem dataFields?_fieldScans :
    (fields : List (String × Data)) → FieldsWritable fields →
      Scan.dataFields? (fieldScans fields) = some fields
  | [], _ => rfl
  | (k, d) :: fields, h => by
    rw [fieldScans, Scan.dataFields?, data?_toScan d h.1, dataFields?_fieldScans fields h.2]
    rfl

end

end Data

end InvoiceApproval
