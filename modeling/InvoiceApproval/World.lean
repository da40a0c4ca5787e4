/-
The world around the program: its working directory and its variables.

The program looks into files by paths.  A path is followed name by name from the
working directory, or from the top directory if it begins with a slash, so it may
hold empty names, single dots and steps back.  A place is the shortest list of names
that leads to a file: it holds steps back in front only, and an empty name in front if
it is counted from the top.  Files are kept by their places, so two paths to one file
find the same file.

Names and paths have a greatest length, counted in the bytes of their encoding.  A name
that is too long is noticed when it is looked up, so only if the names before it lead
somewhere; a path that is too long is noticed at once.

The environment is a row of entries, each a name, an equals sign and a value.  A variable
is looked for by what an entry begins with, so a name with an equals sign in it can be
found too: it takes its end from the beginning of a value.
-/
import InvoiceApproval.Text.Utf8

namespace InvoiceApproval

/-- What stands at a place. -/
inductive Stored where
  | text (content : String)
  | bytes (content : List UInt8)
  | directory

/-- The files that the program can look into, by the texts of their places, and the
variables that are set.  Of two files at one place the first one counts. -/
structure World where
  files : List (String × Stored)
  environment : List (String × String)

/-- Why a file cannot be read. -/
inductive FileError where
  | notFound
  | notADirectory
  | isADirectory
  | notText
  | nameHasNul
  | nameTooLong
deriving DecidableEq, Repr

/-- The wording of the system. -/
def FileError.message : FileError → String
  | .notFound => "No such file or directory (os error 2)"
  | .notADirectory => "Not a directory (os error 20)"
  | .isADirectory => "Is a directory (os error 21)"
  | .notText => "stream did not contain valid UTF-8"
  | .nameHasNul => "file name contained an unexpected NUL byte"
  | .nameTooLong => "File name too long (os error 36)"

namespace World

/-- The value of a variable: what the first entry that begins with its name and an equals
sign has behind them. -/
def value? (w : World) (name : String) : Option String :=
  w.environment.findSome? fun (other, value) =>
    ((name.toList ++ ['=']).isPrefixOf? (other.toList ++ '=' :: value.toList)).map String.ofList

/-! ### Places -/

/-- Cuts characters at every slash. -/
def splitNames : List Char → List (List Char)
  | [] => [[]]
  | c :: rest =>
    if c = '/' then [] :: splitNames rest
    else match splitNames rest with
      | name :: names => (c :: name) :: names
      | [] => [[c]]

/-- The place that a path sets out from, and the names in it. -/
def setOut (path : String) : List String × List String :=
  match (splitNames path.toList).map String.ofList with
  | "" :: names => ([""], names)
  | names => ([], names)

/-- The place one step back.  The top directory is its own. -/
def back (here : List String) : List String :=
  match here.getLast? with
  | none | some ".." => here ++ [".."]
  | some "" => here
  | some _ => here.dropLast

/-- The place that a name leads to.  An empty name and a single dot lead nowhere else. -/
def step (here : List String) (name : String) : List String :=
  if name = "" ∨ name = "." then here
  else if name = ".." then back here
  else here ++ [name]

/-- The text of a place. -/
def placeText (place : List String) : String := "/".intercalate place

/-- What there is once something is put at the end of names: the thing itself, and a
directory at every place on the way to it. -/
def stow (stored : Stored) (here : List String) : List String → List (String × Stored)
  | [] => [(placeText here, stored)]
  | name :: rest => stow stored (step here name) rest ++ [(placeText here, .directory)]

/-- Puts something at the end of a path.  It takes the place of what was there. -/
def put (w : World) (path : String) (stored : Stored) : World :=
  let (here, names) := setOut path
  { w with files := stow stored here names ++ w.files }

/-- What stands outside the working directory of every program: the usual directories at
the top, and the null device, which reads as an empty file. -/
def bare : World where
  files := ("/dev/null", .text "") ::
    ["/bin", "/dev", "/etc", "/lib", "/tmp", "/usr", "/var"].map fun place => (place, .directory)
  environment := []

/-! ### Following a path -/

/-- What stands at a place.  A file makes every directory above it. -/
def entry? (files : List (String × Stored)) (names : List String) : Option Stored :=
  let place := placeText names
  files.lookup place <|>
    if files.any fun (other, _) => (place ++ "/").toList.isPrefixOf other.toList
    then some .directory else none

/-- No name is longer than this. -/
def nameLimit : Nat := 255

/-- Every path is shorter than this. -/
def pathLimit : Nat := 4096

/-- Follows names from the directory at a place. -/
def follow (files : List (String × Stored)) (here : List String) :
    List String → Except FileError Stored
  | [] => .ok .directory
  | name :: rest =>
    if name = "" ∨ name = "." ∨ name = ".." then follow files (step here name) rest
    else if nameLimit < name.utf8ByteSize then .error .nameTooLong
    else
      match entry? files (here ++ [name]) with
      | none => .error .notFound
      | some .directory => follow files (here ++ [name]) rest
      | some stored => if rest.isEmpty then .ok stored else .error .notADirectory

/-- What stands at the end of a path. -/
def locate (w : World) (path : String) : Except FileError Stored :=
  if path = "" then .error .notFound
  else if path.toList.any (·.toNat == 0) then .error .nameHasNul
  else if pathLimit ≤ path.utf8ByteSize then .error .nameTooLong
  else
    let (here, names) := setOut path
    follow w.files here names

/-! ### Looking and reading -/

/-- Whether a path leads to a file or a directory. -/
def hasPath (w : World) (path : String) : Bool :=
  match w.locate path with
  | .ok _ => true
  | .error _ => false

/-- The text of the file at the end of a path. -/
def readText (w : World) (path : String) : Except FileError String := do
  match ← w.locate path with
  | .text content => return content
  | .bytes content =>
    match Text.decodeExact? content with
    | some content => return content
    | none => throw .notText
  | .directory => throw .isADirectory

end World

end InvoiceApproval
