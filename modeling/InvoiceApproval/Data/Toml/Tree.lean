/-
The tree that a TOML document builds.

A document is a list of headers and assignments, and each of them may name a table
that has been named before.  Which of them may go on with it depends on how the
table came about:

* a table with a header of its own is finished by that header and may only get
  tables below it, under further headers;
* a table that a header merely passes through may still get its own header, once;
* a table that a dotted key passes through may be gone on with by dotted keys only;
* a value, which includes every list and table written in brackets, never changes.

Headers in double brackets collect rows, and what passes through them means the
last row.
-/
import InvoiceApproval.Data.Basic

namespace InvoiceApproval.Toml

/-- How a table came about. -/
inductive Origin where
  /-- It has a header of its own. -/
  | header
  /-- A header passed through it. -/
  | passed
  /-- A dotted key passed through it. -/
  | dotted
deriving DecidableEq, Repr

/-- A node below a table. -/
inductive Node where
  /-- A finished value. -/
  | value (d : Data)
  | table (origin : Origin) (entries : List (String × Node))
  /-- Rows collected under headers in double brackets, the last one first. -/
  | rows (newest : List (String × Node)) (older : List (List (String × Node)))

/-- The entries of a table. -/
abbrev Entries := List (String × Node)

/-- Puts a node into the place of the entry of this name. -/
def Entries.replace (name : String) (n : Node) (es : Entries) : Entries :=
  es.map fun (k, v) => if k == name then (k, n) else (k, v)

/-- Takes the entry of this name out. -/
def Entries.erase (name : String) (es : Entries) : Entries := es.filter (·.1 != name)

/-- Adds an entry, unless the name is taken. -/
def Entries.add (name : String) (n : Node) (es : Entries) : Option Entries :=
  match es.lookup name with
  | none => some (es ++ [(name, n)])
  | some _ => none

/-- Assigns a value to the name at the end of a dotted key. -/
def assign (name : String) (d : Data) : List String → Entries → Option Entries
  | [], es => Entries.add name (.value d) es
  | k :: ks, es =>
    match es.lookup k with
    | none => do
      let inner ← assign name d ks []
      return es ++ [(k, .table .dotted inner)]
    | some (.table origin inner) =>
      if origin = .header ∨ (ks = [] ∧ origin ≠ .dotted) then none
      else do
        let inner ← assign name d ks inner
        return Entries.replace k (.table origin inner) es
    | some (.rows newest older) =>
      if ks = [] then none
      else do
        let newest ← assign name d ks newest
        return Entries.replace k (.rows newest older) es
    | some (.value _) => none

/-- Works on the table that a header leads to, given the names that it passes through. -/
def descend (work : Entries → Option Entries) : List String → Entries → Option Entries
  | [], es => work es
  | k :: ks, es =>
    match es.lookup k with
    | none => do
      let inner ← descend work ks []
      return es ++ [(k, .table .passed inner)]
    | some (.table origin inner) => do
      let inner ← descend work ks inner
      return Entries.replace k (.table origin inner) es
    | some (.rows newest older) => do
      let newest ← descend work ks newest
      return Entries.replace k (.rows newest older) es
    | some (.value _) => none

/-- One assignment: a key, cut at its dots, and the value. -/
structure Assignment where
  path : List String
  name : String
  value : Data

/-- Makes assignments one after the other. -/
def assignAll (es : Entries) (assignments : List Assignment) : Option Entries :=
  assignments.foldlM (fun es a => assign a.name a.value a.path es) es

/-- Gives a table its header and fills it.  A table that has only been passed through
before moves behind the other entries, since it counts from its header on. -/
def openTable (name : String) (assignments : List Assignment) (es : Entries) : Option Entries :=
  match es.lookup name with
  | none => do
    let inner ← assignAll [] assignments
    return es ++ [(name, .table .header inner)]
  | some (.table .passed inner) => do
    let inner ← assignAll inner assignments
    return Entries.erase name es ++ [(name, .table .header inner)]
  | some _ => none

/-- Adds a row to a table of rows and fills it. -/
def openRow (name : String) (assignments : List Assignment) (es : Entries) : Option Entries := do
  let row ← assignAll [] assignments
  match es.lookup name with
  | none => return es ++ [(name, .rows row [])]
  | some (.rows newest older) => return Entries.replace name (.rows row (newest :: older)) es
  | some _ => none

/-- A header with the assignments under it. -/
structure Section where
  path : List String
  name : String
  isRow : Bool
  assignments : List Assignment

/-- Adds a section to a document. -/
def addSection (es : Entries) (s : Section) : Option Entries :=
  descend (if s.isRow then openRow s.name s.assignments else openTable s.name s.assignments)
    s.path es

/-- The document of the assignments before the first header and of the sections. -/
def buildEntries (opening : List Assignment) (sections : List Section) : Option Entries := do
  sections.foldlM addSection (← assignAll [] opening)

mutual

/-- A node as data. -/
def Node.toData : Node → Data
  | .value d => d
  | .table _ entries => .record (entriesToData entries)
  | .rows newest older => .list (rowsToData older [.record (entriesToData newest)])

/-- The entries of a table as the fields of a record. -/
def entriesToData : List (String × Node) → List (String × Data)
  | [] => []
  | (k, n) :: es => (k, n.toData) :: entriesToData es

/-- Rows as data, in front of the rows after them. -/
def rowsToData : List (List (String × Node)) → List Data → List Data
  | [], after => after
  | row :: older, after => rowsToData older (.record (entriesToData row) :: after)

end

end InvoiceApproval.Toml
