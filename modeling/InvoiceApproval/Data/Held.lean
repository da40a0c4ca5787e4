/-
Documents that are held until it is known what they mean.

A record may say what it is behind its other fields.  A reader of messages then holds
what it has met until it comes to that, and numbers take a form of their own while
they are held:

* a whole number of sixty-four bits is held as it is;
* a whole number that needs up to one hundred and twenty-eight bits cannot be held,
  wherever it stands, even in a field that nobody asks for;
* a number with a point that has no more digits than its double needs is held as
  that double, and reads afterwards as the double is spelt;
* every other number is held by its spelling.
-/
import InvoiceApproval.Data.Basic
import InvoiceApproval.Data.Binary64

namespace InvoiceApproval.Data

/-- Two to the sixty-third. -/
def signedBound64 : Nat := 9223372036854775808

/-- Two to the hundred and twenty-seventh. -/
def signedBound128 : Nat := 170141183460469231731687303715884105728

/-- Whether a whole number fits into a word, given the bound of the word when one bit of
it is kept for the sign; a word without a sign reaches twice as far. -/
def fitsWord (signedBound : Nat) (n : Int) : Bool := -(signedBound : Int) ≤ n && n < 2 * signedBound

/-- A whole number with more than sixty-four bits and no more than one hundred and
twenty-eight. -/
def isWide (n : Int) : Bool := fitsWord signedBound128 n && !fitsWord signedBound64 n

/-- The spelling of a number that is not whole, once it has been held. -/
def heldFraction (literal : String) : String :=
  let (sign, cs) := match literal.toList with
    | '-' :: cs => (['-'], cs)
    | cs => ([], cs)
  let whole := cs.takeWhile Char.isDigit
  let behind := (cs.dropWhile Char.isDigit).drop 1
  match Binary64.nearest (Text.digitsValue (whole ++ behind)) (-(behind.length : Int)) with
  | some b => if b.plain = cs then String.ofList (sign ++ b.literal) else literal
  | none => literal

/-- The spelling of a number, once it has been held. -/
def heldNumber? (literal : String) : Option String :=
  match readInt literal with
  | some n => if isWide n then none else some literal
  | none => some (heldFraction literal)

mutual

/-- A document, once it has been held. -/
def held? : Data → Option Data
  | .number literal => (heldNumber? literal).map .number
  | .list items => (heldItems? items).map .list
  | .record fields => (heldFields? fields).map .record
  | .null => some .null
  | .bool b => some (.bool b)
  | .text s => some (.text s)

/-- The items of a list, once they have been held. -/
def heldItems? : List Data → Option (List Data)
  | [] => some []
  | d :: ds => do return (← held? d) :: (← heldItems? ds)

/-- The fields of a record, once they have been held. -/
def heldFields? : List (String × Data) → Option (List (String × Data))
  | [] => some []
  | (name, d) :: fields => do return (name, ← held? d) :: (← heldFields? fields)

end

end InvoiceApproval.Data
