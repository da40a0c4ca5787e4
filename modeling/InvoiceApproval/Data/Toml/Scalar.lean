/-
The scalars of TOML: texts, numbers and truth values, and points in time beside them.

Each reader takes what it reads off the front of a text and gives what is left.
What may follow is for the caller to say.
-/
import InvoiceApproval.Data.Basic
import InvoiceApproval.Data.Binary64
import InvoiceApproval.Data.Toml.Moment
import InvoiceApproval.Text.Hex

namespace InvoiceApproval.Toml

/-! ### Characters -/

/-- The blanks within a line. -/
def isGap (c : Char) : Bool := c == ' ' || c == '\t'

/-- A text without the blanks in front. -/
def skipGap (cs : List Char) : List Char := cs.dropWhile isGap

/-- The characters that may stand in a text or a comment: no control characters but
the tab. -/
def isPlain (c : Char) : Bool := c == '\t' || (0x20 ≤ c.toNat && c.toNat != 0x7F)

/-- The characters of a key without quotes. -/
def isKeyChar (c : Char) : Bool := c.isAlphanum || c == '_' || c == '-'

/-! ### Texts -/

/-- The character of this code, unless the code is that of no character. -/
def charOfHex? (cs : List Char) : Option Char := do
  let n ← Text.hexValue? cs
  if n < 0xD800 ∨ (0xDFFF < n ∧ n < 0x110000) then some (Char.ofNat n) else none

/-- The character that a backslash and a letter stand for. -/
def escape? : Char → Option Char
  | 'b' => some '\x08'
  | 't' => some '\t'
  | 'n' => some '\n'
  | 'f' => some '\x0c'
  | 'r' => some '\r'
  | '"' => some '"'
  | '\\' => some '\\'
  | _ => none

/-- A text in double quotes, behind the opening one. -/
def lineText (taken : List Char) : List Char → Option (List Char × List Char)
  | [] => none
  | '"' :: rest => some (taken.reverse, rest)
  | '\\' :: 'u' :: a :: b :: c :: d :: rest => do
    lineText ((← charOfHex? [a, b, c, d]) :: taken) rest
  | '\\' :: 'U' :: a :: b :: c :: d :: e :: f :: g :: h :: rest => do
    lineText ((← charOfHex? [a, b, c, d, e, f, g, h]) :: taken) rest
  | '\\' :: e :: rest => do
    lineText ((← escape? e) :: taken) rest
  | c :: rest => if isPlain c && c != '\\' then lineText (c :: taken) rest else none

/-- A text in single quotes, behind the opening one: nothing is escaped. -/
def lineLiteral (cs : List Char) : Option (List Char × List Char) :=
  match cs.dropWhile fun c => isPlain c && c != '\'' with
  | '\'' :: rest => some (cs.takeWhile fun c => isPlain c && c != '\'', rest)
  | _ => none

/-- How a reader of a text over several lines takes blanks and line breaks. -/
inductive Folding where
  /-- They are part of the text. -/
  | keep
  /-- A backslash has come; a line break has to follow, with blanks before it at most. -/
  | seek
  /-- They are dropped up to the next other character. -/
  | drop
deriving DecidableEq

/-- A text in three double quotes, behind the opening ones and the line break that may
follow them.  One or two quotes may stand before the closing three. -/
def blockText (mode : Folding) (taken : List Char) : List Char → Option (List Char × List Char)
  | [] => none
  | '\n' :: rest =>
    match mode with
    | .keep => blockText .keep ('\n' :: taken) rest
    | .seek | .drop => blockText .drop taken rest
  | '\r' :: '\n' :: rest =>
    match mode with
    | .keep => blockText .keep ('\n' :: taken) rest
    | .seek | .drop => blockText .drop taken rest
  | ' ' :: rest =>
    if mode = .keep then blockText .keep (' ' :: taken) rest else blockText mode taken rest
  | '\t' :: rest =>
    if mode = .keep then blockText .keep ('\t' :: taken) rest else blockText mode taken rest
  | cs@('"' :: '"' :: '"' :: rest) =>
    if mode = .seek then none
    else match cs with
      | '"' :: '"' :: '"' :: '"' :: '"' :: rest => some (('"' :: '"' :: taken).reverse, rest)
      | '"' :: '"' :: '"' :: '"' :: rest => some (('"' :: taken).reverse, rest)
      | _ => some (taken.reverse, rest)
  | '\\' :: 'u' :: a :: b :: c :: d :: rest =>
    if mode = .seek then none
    else do blockText .keep ((← charOfHex? [a, b, c, d]) :: taken) rest
  | '\\' :: 'U' :: a :: b :: c :: d :: e :: f :: g :: h :: rest =>
    if mode = .seek then none
    else do blockText .keep ((← charOfHex? [a, b, c, d, e, f, g, h]) :: taken) rest
  | '\\' :: e :: rest =>
    if mode = .seek then none
    else if isGap e then blockText .seek taken rest
    else if e = '\n' then blockText .drop taken rest
    else if e = '\r' then
      match rest with
      | '\n' :: rest => blockText .drop taken rest
      | _ => none
    else do blockText .keep ((← escape? e) :: taken) rest
  | c :: rest =>
    if mode ≠ .seek ∧ isPlain c = true ∧ c ≠ '\\' then blockText .keep (c :: taken) rest else none

/-- A text in three single quotes, behind the opening ones and the line break that may
follow them. -/
def blockLiteral (taken : List Char) : List Char → Option (List Char × List Char)
  | [] => none
  | cs@('\'' :: '\'' :: '\'' :: rest) =>
    match cs with
    | '\'' :: '\'' :: '\'' :: '\'' :: '\'' :: rest => some (('\'' :: '\'' :: taken).reverse, rest)
    | '\'' :: '\'' :: '\'' :: '\'' :: rest => some (('\'' :: taken).reverse, rest)
    | _ => some (taken.reverse, rest)
  | '\n' :: rest => blockLiteral ('\n' :: taken) rest
  | '\r' :: '\n' :: rest => blockLiteral ('\n' :: taken) rest
  | c :: rest => if isPlain c then blockLiteral (c :: taken) rest else none

/-- A text without the line break at its beginning. -/
def skipFirstBreak : List Char → List Char
  | '\n' :: rest => rest
  | '\r' :: '\n' :: rest => rest
  | cs => cs

/-- A text in any of the four kinds of quotes. -/
def takeText : List Char → Option (String × List Char)
  | '"' :: '"' :: '"' :: rest =>
    (blockText .keep [] (skipFirstBreak rest)).map fun (s, rest) => (String.ofList s, rest)
  | '\'' :: '\'' :: '\'' :: rest =>
    (blockLiteral [] (skipFirstBreak rest)).map fun (s, rest) => (String.ofList s, rest)
  | '"' :: rest => (lineText [] rest).map fun (s, rest) => (String.ofList s, rest)
  | '\'' :: rest => (lineLiteral rest).map fun (s, rest) => (String.ofList s, rest)
  | _ => none

/-! ### Numbers -/

/-- Digits of some base, at least one, with single underscores between them: the
digits alone, and the rest. -/
def takeDigits (isDigit : Char → Bool) : List Char → Option (List Char × List Char)
  | [] => none
  | c :: rest => if isDigit c then some (go [c] rest) else none
where
  go (taken : List Char) : List Char → List Char × List Char
    | [] => (taken.reverse, [])
    | '_' :: c :: rest => if isDigit c then go (c :: taken) rest else (taken.reverse, '_' :: c :: rest)
    | c :: rest => if isDigit c then go (c :: taken) rest else (taken.reverse, c :: rest)

/-- A digit of base sixteen. -/
def isHexDigit (c : Char) : Bool := (Text.hexDigitValue? c).isSome

/-- Two to the sixty-third: whole numbers reach down to minus this number, and up to the
one below it. -/
def integerBound : Nat := 9223372036854775808

/-- The whole number of a sign and a magnitude, if it has sixty-four bits. -/
def integer? (negative : Bool) (n : Nat) : Option Data :=
  if n < integerBound ∨ (negative ∧ n = integerBound) then
    some (.int (if negative then -(n : Int) else n))
  else none

/-- A number to the base of sixteen, eight or two, behind the letter for the base. -/
def takeBased (base : Nat) (isDigit : Char → Bool) (cs : List Char) : Option (Data × List Char) := do
  let (ds, rest) ← takeDigits isDigit cs
  let n := ds.foldl (fun n c => n * base + (Text.hexDigitValue? c).getD 0) 0
  return (← integer? false n, rest)

/-- The number of a sign, the digits before and behind the point, and an exponent.
Past the largest double a positive number is refused and a negative one has no
digits left. -/
def fraction? (negative : Bool) (whole behind : List Char) (exponent : Int) : Option Data :=
  match Binary64.nearest (Text.digitsValue (whole ++ behind)) (exponent - behind.length) with
  | some b => some (.number (String.ofList ((if negative then ['-'] else []) ++ b.literal)))
  | none => if negative then some (.number "-inf") else none

/-- An exponent behind its letter. -/
def takeExponent (cs : List Char) : Option (Int × List Char) := do
  let (negative, cs) := match cs with
    | '-' :: rest => (true, rest)
    | '+' :: rest => (false, rest)
    | cs => (false, cs)
  let (ds, rest) ← takeDigits Char.isDigit cs
  let n := Text.digitsValue ds
  return (if negative then -(n : Int) else n, rest)

/-- Whether a letter opens an exponent. -/
def opensExponent (c : Char) : Bool := c == 'e' || c == 'E'

/-- A number to the base of ten, behind its sign. -/
def takeDecimal (negative : Bool) (cs : List Char) : Option (Data × List Char) := do
  let (whole, cs) ← takeDigits Char.isDigit cs
  if whole.head? = some '0' ∧ whole.length ≠ 1 then none
  else
    match cs with
    | '.' :: rest =>
      let (behind, rest) ← takeDigits Char.isDigit rest
      match rest with
      | e :: tail =>
        if opensExponent e then
          let (exponent, rest) ← takeExponent tail
          return (← fraction? negative whole behind exponent, rest)
        else return (← fraction? negative whole behind 0, rest)
      | [] => return (← fraction? negative whole behind 0, [])
    | e :: tail =>
      if opensExponent e then
        let (exponent, rest) ← takeExponent tail
        return (← fraction? negative whole [] exponent, rest)
      else return (← integer? negative (Text.digitsValue whole), cs)
    | [] => return (← integer? negative (Text.digitsValue whole), [])

/-- A number or one of the two words for what is none, behind its sign. -/
def takeSigned (negative : Bool) : List Char → Option (Data × List Char)
  | 'i' :: 'n' :: 'f' :: rest => some (.number (if negative then "-inf" else "inf"), rest)
  | 'n' :: 'a' :: 'n' :: rest => some (.number "nan", rest)
  | cs => takeDecimal negative cs

/-- A number. -/
def takeNumber : List Char → Option (Data × List Char)
  | '0' :: 'x' :: rest => takeBased 16 isHexDigit rest
  | '0' :: 'o' :: rest => takeBased 8 (fun c => '0' ≤ c && c ≤ '7') rest
  | '0' :: 'b' :: rest => takeBased 2 (fun c => c == '0' || c == '1') rest
  | '+' :: rest => takeSigned false rest
  | '-' :: rest => takeSigned true rest
  | cs => takeSigned false cs

/-- A scalar. -/
def takeScalar (cs : List Char) : Option (Data × List Char) :=
  match cs with
  | 't' :: 'r' :: 'u' :: 'e' :: rest => some (.bool true, rest)
  | 'f' :: 'a' :: 'l' :: 's' :: 'e' :: rest => some (.bool false, rest)
  | '"' :: _ | '\'' :: _ => (takeText cs).map fun (s, rest) => (.text s, rest)
  | _ => (takeMoment cs).or (takeNumber cs)

end InvoiceApproval.Toml
