/-
Points in time: a day, a time of day, or both with a distance from universal time.

A moment is checked against the calendar and kept as it is written, for nothing in the
program counts time.  As data it is a table whose first field has a reserved name and
holds the written form.  A document may write such a table out; to most readers it is a
table like any other, but whoever wants to tell values and tables apart reads the
moments first.
-/
import InvoiceApproval.Data.Basic
import InvoiceApproval.Text.Unsigned

namespace InvoiceApproval.Toml

/-! ### Days and times -/

/-- A number of two digits within bounds. -/
def takeTwo (low high : Nat) : List Char → Option (Nat × List Char)
  | a :: b :: rest =>
    if a.isDigit && b.isDigit then
      let n := Text.digitsValue [a, b]
      if low ≤ n ∧ n ≤ high then some (n, rest) else none
    else none
  | _ => none

/-- The number of days in a month. -/
def daysIn (year month : Nat) : Nat :=
  if month = 2 then
    if year % 4 = 0 ∧ (year % 100 ≠ 0 ∨ year % 400 = 0) then 29 else 28
  else if month = 4 ∨ month = 6 ∨ month = 9 ∨ month = 11 then 30
  else 31

/-- Takes this character. -/
def takeChar (c : Char) : List Char → Option (List Char)
  | d :: rest => if d = c then some rest else none
  | [] => none

/-- A day: year, month and day of the month. -/
def takeDay (cs : List Char) : Option (List Char) := do
  let (century, cs) ← takeTwo 0 99 cs
  let (year, cs) ← takeTwo 0 99 cs
  let cs ← takeChar '-' cs
  let (month, cs) ← takeTwo 1 12 cs
  let cs ← takeChar '-' cs
  let (_, cs) ← takeTwo 1 (daysIn (century * 100 + year) month) cs
  return cs

/-- A time of day: hour, minute, second, and parts of a second if there are any. -/
def takeTime (cs : List Char) : Option (List Char) := do
  let (_, cs) ← takeTwo 0 23 cs
  let cs ← takeChar ':' cs
  let (_, cs) ← takeTwo 0 59 cs
  let cs ← takeChar ':' cs
  let (_, cs) ← takeTwo 0 60 cs
  match cs with
  | '.' :: d :: rest => if d.isDigit then some (rest.dropWhile Char.isDigit) else some cs
  | _ => some cs

/-- Hours and minutes behind a sign. -/
def takeDistance (cs : List Char) : Option (List Char) := do
  let (_, cs) ← takeTwo 0 23 cs
  let cs ← takeChar ':' cs
  let (_, cs) ← takeTwo 0 59 cs
  return cs

/-- A distance from universal time, if there is one. -/
def skipOffset (cs : List Char) : List Char :=
  match cs with
  | 'Z' :: rest | 'z' :: rest => rest
  | '+' :: rest | '-' :: rest => (takeDistance rest).getD cs
  | _ => cs

/-- The letters and the blank that may stand between a day and a time. -/
def isTimeMark (c : Char) : Bool := c == 'T' || c == 't' || c == ' '

/-! ### Moments -/

/-- What follows a day, a day with a time, or a time. -/
def behindMoment? (cs : List Char) : Option (List Char) :=
  match takeDay cs with
  | some (mark :: rest) =>
    if isTimeMark mark then
      match takeTime rest with
      | some rest => some (skipOffset rest)
      | none => some (mark :: rest)
    else some (mark :: rest)
  | some [] => some []
  | none => takeTime cs

/-- Whether a text is a moment and nothing else. -/
def isMoment (s : String) : Bool := behindMoment? s.toList == some []

/-- The name of the field that holds the written form of a moment. -/
def momentField : String := "$__toml_private_datetime"

/-- Takes a moment. -/
def takeMoment (cs : List Char) : Option (Data × List Char) :=
  (behindMoment? cs).map fun rest =>
    (.record [(momentField, .text (String.ofList (cs.take (cs.length - rest.length))))], rest)

/-! ### Tables that stand for moments -/

/-- The moment that the fields of a table stand for, if they stand for one: the first
field decides. -/
def momentOf? : List (String × Data) → Option Data
  | (_, .text s) :: _ => if isMoment s then some (.text s) else none
  | _ => none

mutual

/-- A document of which the moments are read: each of them has become a text.  A table
that says that it is a moment, and is none, spoils the document. -/
def readMoments? : Data → Option Data
  | .record fields =>
    if fields.head?.any (·.1 == momentField) then momentOf? fields
    else (fieldMoments? fields).map .record
  | .list items => (itemMoments? items).map .list
  | .null => some .null
  | .bool b => some (.bool b)
  | .number literal => some (.number literal)
  | .text s => some (.text s)

/-- The items of a list with their moments read. -/
def itemMoments? : List Data → Option (List Data)
  | [] => some []
  | d :: ds => do return (← readMoments? d) :: (← itemMoments? ds)

/-- The fields of a record with their moments read. -/
def fieldMoments? : List (String × Data) → Option (List (String × Data))
  | [] => some []
  | (name, d) :: fields => do return (name, ← readMoments? d) :: (← fieldMoments? fields)

end

end InvoiceApproval.Toml
