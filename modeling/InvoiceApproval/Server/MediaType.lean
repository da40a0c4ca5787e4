/-
Media types: what a message says its body is.

A media type is a type, a slash and a subtype, with parameters behind semicolons.  A
subtype may end in a plus sign and a suffix, which names the notation underneath.
The case of letters does not count.

A body is taken for JSON if its media type is well formed, parameters included, its
type is `application`, and its subtype or its suffix is `json`.
-/
namespace InvoiceApproval

namespace MediaType

/-- A character of a name: a letter, a digit or one of fifteen signs. -/
def isNameChar (c : Char) : Bool :=
  c.isAlphanum || "!#$%&'*+-.^_\x60|~".toList.contains c

/-! ### Parameters -/

/-- Where the reading of parameters stands. -/
inductive ParameterState where
  /-- Behind a semicolon. -/
  | opened
  /-- Inside a name. -/
  | name
  /-- Behind an equals sign. -/
  | assigned
  /-- Inside a value. -/
  | value
  /-- Behind an opening quote. -/
  | quoteOpened
  /-- Inside a quoted value. -/
  | quoted
  /-- Behind a closing quote. -/
  | quoteClosed
deriving DecidableEq, Repr

namespace ParameterState

/-- Whether a character may stand in a quoted value. -/
def isQuotable (c : Char) : Bool := 0x1F < c.toNat && c.toNat < 0x7F

/-- Reads one more character.  The first character behind an opening quote never closes
it. -/
def step : ParameterState → Char → Option ParameterState
  | opened, c => if c = ' ' then some opened else if isNameChar c then some name else none
  | name, c => if c = '=' then some assigned else if isNameChar c then some name else none
  | assigned, c => if c = '"' then some quoteOpened else if isNameChar c then some value else none
  | value, c => if c = ';' then some opened else if isNameChar c then some value else none
  | quoteOpened, c => if isQuotable c then some quoted else none
  | quoted, c => if c = '"' then some quoteClosed else if isQuotable c then some quoted else none
  | quoteClosed, c =>
    if c = ';' then some opened else if c = ' ' then some quoteClosed else none

/-- Whether the parameters may end here. -/
def isFinal : ParameterState → Bool
  | opened | assigned | value | quoteClosed => true
  | name | quoteOpened | quoted => false

end ParameterState

/-- Whether what follows the first semicolon makes parameters. -/
def areParameters (cs : List Char) : Bool :=
  (cs.foldlM ParameterState.step .opened).any (·.isFinal)

/-! ### The type -/

/-- The part of a name behind its last plus sign; the first character is none. -/
def suffix? (name : List Char) : Option (List Char) :=
  if (name.drop 1).contains '+' then some (name.reverse.takeWhile (· != '+')).reverse else none

/-- The part of a name before its last plus sign, which is all of it if there is none. -/
def stem (name : List Char) : List Char :=
  match suffix? name with
  | some suffix => name.take (name.length - suffix.length - 1)
  | none => name

/-- The word `json`. -/
def json : List Char := ['j', 's', 'o', 'n']

/-- Whether a media type says that a body is JSON. -/
def isJson (s : String) : Bool :=
  let cs := s.toList.map Char.toLower
  match cs.dropWhile isNameChar with
  | '/' :: rest =>
    let subtype := rest.takeWhile isNameChar
    cs.takeWhile isNameChar == "application".toList
      && (stem subtype == json || suffix? subtype == some json)
      && match rest.dropWhile isNameChar with
        | [] => true
        | ';' :: parameters => areParameters parameters
        | _ => false
  | _ => false

/-- Whether a character can be shown in ASCII, blanks within a line included. -/
def isShown (c : Char) : Bool := c == '\t' || (0x20 ≤ c.toNat && c.toNat < 0x7F)

/-- Whether a media type says that a body is a submitted form: only how it begins
counts, but all of it has to be ASCII. -/
def isForm (s : String) : Bool :=
  s.toList.all isShown && "application/x-www-form-urlencoded".toList.isPrefixOf s.toList

end MediaType

end InvoiceApproval
