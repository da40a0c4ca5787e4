/-
Variables inside a settings file.

A dollar sign and an opening brace begin a placeholder, which runs to the first
closing brace; what stands between the braces names a variable, and its value takes
the place of the placeholder.  The text is read once, from left to right: a value is
put in as it is and never looked at again, and every other character stays.
-/
namespace InvoiceApproval

/-- Why the placeholders of a text cannot be filled. -/
inductive PlaceholderError where
  /-- No variable of this name is set. -/
  | unset (name : String)
  /-- The last placeholder has no closing brace. -/
  | unclosed
deriving DecidableEq, Repr

namespace Interpolation

/-- Puts text in front of a filled text. -/
def before (cs : List Char) (filled : Except PlaceholderError (List Char)) :
    Except PlaceholderError (List Char) :=
  filled.map (cs ++ ·)

/-- The value of a variable, given the characters of its name from the last one on. -/
def valueOf (value? : String → Option String) (reversedName : List Char) :
    Except PlaceholderError (List Char) :=
  let name := String.ofList reversedName.reverse
  match value? name with
  | some value => .ok value.toList
  | none => .error (.unset name)

/-- Fills the placeholders of a text.  Inside a placeholder the first argument holds the
name read so far, from its last character on. -/
def fill (value? : String → Option String) :
    Option (List Char) → List Char → Except PlaceholderError (List Char)
  | none, [] => .ok []
  | none, '$' :: '{' :: rest => fill value? (some []) rest
  | none, c :: rest => before [c] (fill value? none rest)
  | some _, [] => .error .unclosed
  | some name, '}' :: rest => do
    before (← valueOf value? name) (fill value? none rest)
  | some name, c :: rest => fill value? (some (c :: name)) rest

/-- The names in the placeholders of a text, in their order. -/
def names : Option (List Char) → List Char → List String
  | none, '$' :: '{' :: rest => names (some []) rest
  | none, _ :: rest => names none rest
  | some name, '}' :: rest => String.ofList name.reverse :: names none rest
  | some name, c :: rest => names (some (c :: name)) rest
  | _, [] => []

end Interpolation

/-- A text with its placeholders filled. -/
def interpolate (value? : String → Option String) (s : String) :
    Except PlaceholderError String :=
  (Interpolation.fill value? none s.toList).map String.ofList

end InvoiceApproval
