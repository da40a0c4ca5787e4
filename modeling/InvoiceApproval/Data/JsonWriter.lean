/-
Documents written as JSON.

The compact form has no blanks.  The indented form puts every item and every field
on a line of its own, two spaces further in than the bracket around it; an empty
list or record stays on its line.

In a text only the quote, the backslash and the control characters below the space
are escaped.
-/
import InvoiceApproval.Data.Basic
import InvoiceApproval.Text.Hex

namespace InvoiceApproval.Data

/-- A character as it stands between the quotes. -/
def escapeChar (c : Char) : List Char :=
  if c = '"' then ['\\', '"']
  else if c = '\\' then ['\\', '\\']
  else if c.toNat = 0x08 then ['\\', 'b']
  else if c.toNat = 0x0C then ['\\', 'f']
  else if c = '\n' then ['\\', 'n']
  else if c = '\r' then ['\\', 'r']
  else if c = '\t' then ['\\', 't']
  else if c.toNat < 0x20 then
    ['\\', 'u', '0', '0', Text.hexDigit (c.toNat / 16), Text.hexDigit (c.toNat % 16)]
  else [c]

/-- A text in quotes. -/
def quoted (s : String) : List Char :=
  '"' :: (s.toList.flatMap escapeChar ++ ['"'])

/-! ### The compact form -/

mutual

/-- A document without any blanks. -/
def compactChars : Data → List Char
  | .null => ['n', 'u', 'l', 'l']
  | .bool true => ['t', 'r', 'u', 'e']
  | .bool false => ['f', 'a', 'l', 's', 'e']
  | .number literal => literal.toList
  | .text s => quoted s
  | .list items => '[' :: (compactItems items ++ [']'])
  | .record fields => '{' :: (compactFields fields ++ ['}'])

/-- The items of a list, with commas between them. -/
def compactItems : List Data → List Char
  | [] => []
  | [d] => compactChars d
  | d :: ds => compactChars d ++ ',' :: compactItems ds

/-- The fields of a record, with commas between them. -/
def compactFields : List (String × Data) → List Char
  | [] => []
  | [(k, d)] => quoted k ++ ':' :: compactChars d
  | (k, d) :: fields => quoted k ++ ':' :: (compactChars d ++ ',' :: compactFields fields)

end

/-- A document as JSON on one line. -/
def toJson (d : Data) : String := String.ofList d.compactChars

/-! ### The indented form -/

/-- A new line that begins `depth` steps further in. -/
def newLine (depth : Nat) : List Char := '\n' :: List.replicate (2 * depth) ' '

mutual

/-- A document with one line for each item and field. -/
def indentedChars (depth : Nat) : Data → List Char
  | .list [] => ['[', ']']
  | .list items => '[' :: (indentedItems (depth + 1) items ++ newLine depth ++ [']'])
  | .record [] => ['{', '}']
  | .record fields => '{' :: (indentedFields (depth + 1) fields ++ newLine depth ++ ['}'])
  | .null => ['n', 'u', 'l', 'l']
  | .bool true => ['t', 'r', 'u', 'e']
  | .bool false => ['f', 'a', 'l', 's', 'e']
  | .number literal => literal.toList
  | .text s => quoted s

/-- The items of a list, each on its line. -/
def indentedItems (depth : Nat) : List Data → List Char
  | [] => []
  | [d] => newLine depth ++ indentedChars depth d
  | d :: ds => newLine depth ++ indentedChars depth d ++ ',' :: indentedItems depth ds

/-- The fields of a record, each on its line. -/
def indentedFields (depth : Nat) : List (String × Data) → List Char
  | [] => []
  | [(k, d)] => newLine depth ++ quoted k ++ ':' :: ' ' :: indentedChars depth d
  | (k, d) :: fields =>
    newLine depth ++ quoted k ++ ':' :: ' ' :: indentedChars depth d
      ++ ',' :: indentedFields depth fields

end

/-- A document as JSON over several lines. -/
def toIndentedJson (d : Data) : String := String.ofList (d.indentedChars 0)

end InvoiceApproval.Data
