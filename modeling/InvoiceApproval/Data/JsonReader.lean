/-
Documents read from JSON.

A text is scanned from the left, and the scan keeps what it has made out when the
text stops being JSON: the place of the break is marked `cut`, and nothing stands
behind it.  So whoever takes a value out of the scan meets a value of the wrong
shape and a break in the text in the order in which they are written.

A text in quotes may escape halves of a character that do not meet.  It is then
`text none`: the scan goes on behind it, but it has no value.  A field whose name is
written like that has no name.

A text that arrives in bytes need not be UTF-8.  Bytes between quotes that are no
character spoil what is quoted, as a lone half does, and nothing else.  To find them the
bytes are scanned twice, with another mark for what is no character each time: a quoted
text with a mark in it is one on which the two scans do not agree.

A number may also be written as a record that wraps its spelling.  In the document
that is read from a whole scan the two are the same.
-/
import InvoiceApproval.Data.Basic
import InvoiceApproval.Text.Hex
import InvoiceApproval.Text.Utf8

namespace InvoiceApproval

/-- What a scan of a text from left to right has made out. -/
inductive Scan where
  | null
  | bool (value : Bool)
  | number (literal : String)
  /-- A text in quotes, with its value if it has one. -/
  | text (value : Option String)
  | list (items : List Scan)
  /-- A record; where its text stops before a name, the last field is `cut` without one. -/
  | record (fields : List (Option String × Scan))
  /-- Here the text stops being JSON. -/
  | cut
deriving Inhabited

namespace Scan

/-- The blanks of JSON. -/
def isJsonBlank (c : Char) : Bool := c == ' ' || c == '\n' || c == '\t' || c == '\r'

/-- A text without the blanks in front. -/
def skipBlanks (cs : List Char) : List Char := cs.dropWhile isJsonBlank

/-! ### Texts -/

/-- What stands up to the closing quote, and what follows it.  A control character ends
the scan. -/
def rawText (taken : List Char) : List Char → Option (List Char × List Char)
  | [] => none
  | '"' :: rest => some (taken.reverse, rest)
  | '\\' :: c :: rest => if c.toNat < 0x20 then none else rawText (c :: '\\' :: taken) rest
  | c :: rest => if c.toNat < 0x20 then none else rawText (c :: taken) rest

/-- The character that a backslash and a letter stand for. -/
def shortEscape? : Char → Option Char
  | '"' => some '"'
  | '\\' => some '\\'
  | '/' => some '/'
  | 'b' => some '\x08'
  | 'f' => some '\x0c'
  | 'n' => some '\n'
  | 'r' => some '\r'
  | 't' => some '\t'
  | _ => none

/-- One written unit of a text: a character, or a half of one. -/
inductive TextUnit where
  | char (c : Char)
  | half (code : Nat)

/-- Whether a number is half of a character. -/
def isHalf (n : Nat) : Bool := 0xD800 ≤ n && n ≤ 0xDFFF

/-- Cuts what stands between the quotes into units; an unknown escape has none. -/
def textUnits? : List Char → Option (List TextUnit)
  | [] => some []
  | '\\' :: 'u' :: a :: b :: c :: d :: rest => do
    let n ← Text.hexValue? [a, b, c, d]
    let units ← textUnits? rest
    return (if isHalf n then .half n else .char (Char.ofNat n)) :: units
  | '\\' :: e :: rest => do
    let c ← shortEscape? e
    return .char c :: (← textUnits? rest)
  | ['\\'] => none
  | c :: rest => do
    return .char c :: (← textUnits? rest)

/-- Puts a first and a second half together wherever they meet.  A half that stands
alone spoils the text. -/
def joinHalves? : List TextUnit → Option (List Char)
  | [] => some []
  | .char c :: rest => do return c :: (← joinHalves? rest)
  | .half first :: .half second :: rest =>
    if first < 0xDC00 ∧ 0xDC00 ≤ second then do
      let code := 0x10000 + (first - 0xD800) * 0x400 + (second - 0xDC00)
      return Char.ofNat code :: (← joinHalves? rest)
    else none
  | .half _ :: _ => none

/-- Scans a text behind its opening quote. -/
def scanText (cs : List Char) : Option (Option String × List Char) := do
  let (raw, rest) ← rawText [] cs
  let units ← textUnits? raw
  return ((joinHalves? units).map String.ofList, rest)

/-! ### Numbers and words -/

/-- Digits, at least one, and what follows them. -/
def digitRun? (cs : List Char) : Option (List Char × List Char) :=
  match cs.takeWhile Char.isDigit with
  | [] => none
  | ds => some (ds, cs.dropWhile Char.isDigit)

/-- The whole part of a number: no zero stands in front of another digit. -/
def wholePart? (cs : List Char) : Option (List Char × List Char) :=
  match digitRun? cs with
  | some ('0' :: _ :: _, _) => none
  | part => part

/-- The part of a number behind a point; there need not be one. -/
def fractionPart? : List Char → Option (List Char × List Char)
  | '.' :: rest => (digitRun? rest).map fun (ds, rest) => ('.' :: ds, rest)
  | cs => some ([], cs)

/-- The exponent of a number; there need not be one. -/
def exponentPart? : List Char → Option (List Char × List Char)
  | e :: rest =>
    if e = 'e' ∨ e = 'E' then
      match rest with
      | '+' :: rest => (digitRun? rest).map fun (ds, rest) => (e :: '+' :: ds, rest)
      | '-' :: rest => (digitRun? rest).map fun (ds, rest) => (e :: '-' :: ds, rest)
      | rest => (digitRun? rest).map fun (ds, rest) => (e :: ds, rest)
    else some ([], e :: rest)
  | [] => some ([], [])

/-- Scans a number: its spelling and what follows it. -/
def scanNumber (cs : List Char) : Option (List Char × List Char) := do
  let (sign, cs) := match cs with
    | '-' :: rest => (['-'], rest)
    | cs => ([], cs)
  let (whole, cs) ← wholePart? cs
  let (fraction, cs) ← fractionPart? cs
  let (exponent, cs) ← exponentPart? cs
  return (sign ++ whole ++ fraction ++ exponent, cs)

/-- The three words of JSON. -/
def scanWord : List Char → Option (Scan × List Char)
  | 't' :: 'r' :: 'u' :: 'e' :: rest => some (.bool true, rest)
  | 'f' :: 'a' :: 'l' :: 's' :: 'e' :: rest => some (.bool false, rest)
  | 'n' :: 'u' :: 'l' :: 'l' :: rest => some (.null, rest)
  | _ => none

/-! ### Values

Each step goes one deeper or takes a character, so twice the length of the text is
more steps than there are.
-/

mutual

/-- Scans a value, and gives what follows it unless the text was cut. -/
def scanValue : Nat → List Char → Scan × Option (List Char)
  | 0, _ => (.cut, none)
  | steps + 1, cs =>
    match skipBlanks cs with
    | [] => (.cut, none)
    | '"' :: rest =>
      match scanText rest with
      | some (s, rest) => (.text s, some rest)
      | none => (.cut, none)
    | '[' :: rest =>
      match skipBlanks rest with
      | ']' :: rest => (.list [], some rest)
      | rest =>
        let (items, rest) := scanItems steps rest
        (.list items, rest)
    | '{' :: rest =>
      match skipBlanks rest with
      | '}' :: rest => (.record [], some rest)
      | rest =>
        let (fields, rest) := scanFields steps rest
        (.record fields, rest)
    | c :: rest =>
      if c = '-' ∨ c.isDigit then
        match scanNumber (c :: rest) with
        | some (literal, rest) => (.number (String.ofList literal), some rest)
        | none => (.cut, none)
      else
        match scanWord (c :: rest) with
        | some (v, rest) => (v, some rest)
        | none => (.cut, none)

/-- Scans the items of a list, from the first one on. -/
def scanItems : Nat → List Char → List Scan × Option (List Char)
  | 0, _ => ([.cut], none)
  | steps + 1, cs =>
    match scanValue steps cs with
    | (v, none) => ([v], none)
    | (v, some rest) =>
      match skipBlanks rest with
      | ']' :: rest => ([v], some rest)
      | ',' :: rest =>
        let (vs, rest) := scanItems steps rest
        (v :: vs, rest)
      | _ => ([v, .cut], none)

/-- Scans the fields of a record, from the first one on. -/
def scanFields : Nat → List Char → List (Option String × Scan) × Option (List Char)
  | 0, _ => ([(none, .cut)], none)
  | steps + 1, cs =>
    match skipBlanks cs with
    | '"' :: rest =>
      match scanText rest with
      | some (name, rest) =>
        match skipBlanks rest with
        | ':' :: rest =>
          match scanValue steps rest with
          | (v, none) => ([(name, v)], none)
          | (v, some rest) =>
            match skipBlanks rest with
            | '}' :: rest => ([(name, v)], some rest)
            | ',' :: rest =>
              let (fields, rest) := scanFields steps rest
              ((name, v) :: fields, rest)
            | _ => ([(name, v), (none, .cut)], none)
        | _ => ([(name, .cut)], none)
      | none => ([(none, .cut)], none)
    | _ => ([(none, .cut)], none)

end

/-- The scan of a whole text, and whether nothing but blanks follows the value. -/
def ofChars (cs : List Char) : Scan × Bool :=
  let (v, rest) := scanValue (2 * cs.length + 2) cs
  (v, rest.any fun rest => (skipBlanks rest).isEmpty)

/-! ### Bytes -/

mutual

/-- A scan without the texts that another scan has read in another way. -/
def agreed : Scan → Scan → Scan
  | .text s, .text other => .text (if s = other then s else none)
  | .list items, .list others => .list (agreedItems items others)
  | .record fields, .record others => .record (agreedFields fields others)
  | v, _ => v

/-- The items of a scanned list without the texts that are read in another way. -/
def agreedItems : List Scan → List Scan → List Scan
  | v :: vs, other :: others => agreed v other :: agreedItems vs others
  | vs, _ => vs

/-- The fields of a scanned record without the texts that are read in another way. -/
def agreedFields :
    List (Option String × Scan) → List (Option String × Scan) → List (Option String × Scan)
  | (name, v) :: fields, (otherName, other) :: others =>
    (if name = otherName then name else none, agreed v other) :: agreedFields fields others
  | fields, _ => fields

end

/-- The scan of a whole text in bytes, and whether nothing but blanks follows the value. -/
def ofBytes (bytes : List UInt8) : Scan × Bool :=
  let (v, ended) := ofChars (Text.decode Text.replacementChar bytes)
  let (other, _) := ofChars (Text.decode Text.objectChar bytes)
  (v.agreed other, ended)

/-! ### Whole scans -/

mutual

/-- Whether the text stops being JSON somewhere in a scan. -/
def isCut : Scan → Bool
  | .list items => anyCut items
  | .record fields => anyFieldCut fields
  | .cut => true
  | .null | .bool _ | .number _ | .text _ => false

/-- Whether one of several scans is cut. -/
def anyCut : List Scan → Bool
  | [] => false
  | v :: vs => isCut v || anyCut vs

/-- Whether one of the fields of a scanned record is cut. -/
def anyFieldCut : List (Option String × Scan) → Bool
  | [] => false
  | (_, v) :: fields => isCut v || anyFieldCut fields

end

/-- Whether a text is the spelling of a number. -/
def isNumber (s : String) : Bool := (scanNumber s.toList).any fun (_, rest) => rest.isEmpty

/-- A record with these fields, or the number that they wrap. -/
def unwrap : List (String × Data) → Data
  | [(name, .text s)] =>
    if name = Data.numberField ∧ isNumber s = true then .number s else .record [(name, .text s)]
  | fields => .record fields

mutual

/-- The document that was scanned, if the scan is whole. -/
def data? : Scan → Option Data
  | .null => some .null
  | .bool b => some (.bool b)
  | .number literal => some (.number literal)
  | .text s => s.map .text
  | .list items => (dataList? items).map .list
  | .record fields => (dataFields? fields).map unwrap
  | .cut => none

/-- The documents of a list of scans. -/
def dataList? : List Scan → Option (List Data)
  | [] => some []
  | v :: vs => do return (← data? v) :: (← dataList? vs)

/-- The documents in the fields of a scanned record. -/
def dataFields? : List (Option String × Scan) → Option (List (String × Data))
  | [] => some []
  | (name, v) :: fields => do return (← name, ← data? v) :: (← dataFields? fields)

end

end Scan

/-- The document that a JSON text holds. -/
def Data.ofJson? (s : String) : Option Data :=
  match Scan.ofChars s.toList with
  | (v, true) => v.data?
  | (_, false) => none

end InvoiceApproval
