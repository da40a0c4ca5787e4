/-
Documents read from TOML, version 1.0.

A text is first cut into headers and assignments, and these then build the document.
The reader says only whether a text is a document: where it is not, no place is
named.

Lists and tables in brackets may stand inside each other up to a fixed depth, and a
dotted key has a greatest length.
-/
import InvoiceApproval.Data.Toml.Scalar
import InvoiceApproval.Data.Toml.Tree

namespace InvoiceApproval.Toml

/-- Brackets have to be less than this deep. -/
def nestingLimit : Nat := 80

/-- A key has at most this many names. -/
def keyLimit : Nat := 79

/-! ### Gaps, comments and keys -/

/-- A text without the blanks, line breaks and comments in front. -/
def skipFiller (inComment : Bool) : List Char → List Char
  | [] => []
  | '\n' :: rest => skipFiller false rest
  | '\r' :: '\n' :: rest => skipFiller false rest
  | c :: rest =>
    if inComment then
      if isPlain c then skipFiller true rest else c :: rest
    else if isGap c then skipFiller false rest
    else if c = '#' then skipFiller true rest
    else c :: rest

/-- The end of a line: blanks, a comment if there is one, and a line break or the end of
the text.  Gives the next line. -/
def takeLineEnd (cs : List Char) : Option (List Char) :=
  let cs := skipGap cs
  let cs := match cs with
    | '#' :: rest => rest.dropWhile isPlain
    | cs => cs
  match cs with
  | [] => some []
  | '\n' :: rest => some rest
  | '\r' :: '\n' :: rest => some rest
  | _ => none

/-- One name of a key. -/
def takeName (cs : List Char) : Option (String × List Char) :=
  match cs with
  | '"' :: rest => (lineText [] rest).map fun (s, rest) => (String.ofList s, rest)
  | '\'' :: rest => (lineLiteral rest).map fun (s, rest) => (String.ofList s, rest)
  | _ =>
    match cs.takeWhile isKeyChar with
    | [] => none
    | name => some (String.ofList name, cs.dropWhile isKeyChar)

/-- The names of a key, with dots and blanks between them.  Gives the names before the
last one, the last one, and the text behind the key and its blanks. -/
def takeKey : Nat → List Char → Option (List String × String × List Char)
  | 0, _ => none
  | steps + 1, cs => do
    let (name, rest) ← takeName (skipGap cs)
    match skipGap rest with
    | '.' :: rest =>
      let (path, last, rest) ← takeKey steps rest
      return (name :: path, last, rest)
    | rest => return ([], name, rest)

/-! ### Values

Each step goes one deeper or takes a character, so twice the length of the text is
more steps than there are.
-/

mutual

/-- Takes a value that stands this deep in brackets. -/
def takeValue : Nat → Nat → List Char → Option (Data × List Char)
  | 0, _, _ => none
  | steps + 1, depth, cs =>
    match cs with
    | '[' :: rest =>
      if nestingLimit ≤ depth + 1 then none
      else do
        let (items, rest) ← takeItems steps (depth + 1) (skipFiller false rest)
        return (.list items, rest)
    | '{' :: rest =>
      if nestingLimit ≤ depth + 1 then none
      else
        match skipGap rest with
        | '}' :: rest => return (.record [], rest)
        | rest => do
          let (assignments, rest) ← takePairs steps (depth + 1) rest
          return (.record (entriesToData (← assignAll [] assignments)), rest)
    | cs => takeScalar cs

/-- Takes the items of a list up to its closing bracket; a comma may stand before it. -/
def takeItems : Nat → Nat → List Char → Option (List Data × List Char)
  | 0, _, _ => none
  | steps + 1, depth, cs =>
    match cs with
    | ']' :: rest => some ([], rest)
    | cs => do
      let (d, rest) ← takeValue steps depth cs
      match skipFiller false rest with
      | ',' :: rest =>
        let (ds, rest) ← takeItems steps depth (skipFiller false rest)
        return (d :: ds, rest)
      | ']' :: rest => return ([d], rest)
      | _ => none

/-- Takes the assignments of a table in brackets up to the closing one, all on one line. -/
def takePairs : Nat → Nat → List Char → Option (List Assignment × List Char)
  | 0, _, _ => none
  | steps + 1, depth, cs => do
    let (a, rest) ← takeAssignment steps depth cs
    match skipGap rest with
    | ',' :: rest =>
      let (as, rest) ← takePairs steps depth rest
      return (a :: as, rest)
    | '}' :: rest => return ([a], rest)
    | _ => none

/-- Takes one assignment. -/
def takeAssignment : Nat → Nat → List Char → Option (Assignment × List Char)
  | 0, _, _ => none
  | steps + 1, depth, cs => do
    let (path, name, rest) ← takeKey keyLimit cs
    match rest with
    | '=' :: rest =>
      let (d, rest) ← takeValue steps depth (skipGap rest)
      return (⟨path, name, d⟩, rest)
    | _ => none

end

/-! ### Lines -/

/-- Takes a header: its names, whether it opens a row, and the next line. -/
def takeHeader (cs : List Char) : Option (Section × List Char) :=
  match cs with
  | '[' :: '[' :: rest => do
    let (path, name, rest) ← takeKey keyLimit rest
    match rest with
    | ']' :: ']' :: rest => return (⟨path, name, true, []⟩, ← takeLineEnd rest)
    | _ => none
  | '[' :: rest => do
    let (path, name, rest) ← takeKey keyLimit rest
    match rest with
    | ']' :: rest => return (⟨path, name, false, []⟩, ← takeLineEnd rest)
    | _ => none
  | _ => none

/-- Cuts a text into the assignments before the first header, and the sections. -/
def takeLines : Nat → List Char → Option (List Assignment × List Section)
  | 0, _ => none
  | steps + 1, cs =>
    match skipFiller false cs with
    | [] => some ([], [])
    | '[' :: rest => do
      let (header, rest) ← takeHeader ('[' :: rest)
      let (assignments, sections) ← takeLines steps rest
      return ([], { header with assignments } :: sections)
    | cs => do
      let (a, rest) ← takeAssignment (2 * cs.length + 2) 0 cs
      let rest ← takeLineEnd rest
      let (assignments, sections) ← takeLines steps rest
      return (a :: assignments, sections)

/-- A text without the mark that may open it. -/
def skipMark : List Char → List Char
  | c :: rest => if c.toNat = 0xFEFF then rest else c :: rest
  | [] => []

/-- The document that a TOML text holds. -/
def read? (s : String) : Option (List (String × Data)) := do
  let cs := skipMark s.toList
  let (opening, sections) ← takeLines (cs.length + 1) cs
  let entries ← buildEntries opening sections
  return entriesToData entries

/-- What is said of a text that is no document. -/
def failureText : String := "<toml error>"

end InvoiceApproval.Toml
