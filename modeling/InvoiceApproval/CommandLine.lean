/-
The command line.

The first word names a command, and options follow in any order, each at most once.
An option that takes a value has it behind an equals sign or in the next word.  A
next word that begins with a dash is not taken for a value, with two exceptions: the
dash that stands alone, and a negative number where a number is looked for.

Two dashes that stand alone end the options.  No command takes anything behind them,
so they may only stand at the end.
-/
import InvoiceApproval.Command.Config
import InvoiceApproval.Command.Doctor
import InvoiceApproval.Command.Execute
import InvoiceApproval.Command.Listing

namespace InvoiceApproval

/-! ### Options -/

/-- What an option takes. -/
inductive Operand where
  | nothing
  | text
  | number
deriving DecidableEq, Repr

/-- An option of a command. -/
structure OptionSpec where
  name : String
  operand : Operand
deriving DecidableEq, Repr

/-- A word of a command line. -/
inductive CommandWord where
  /-- Two dashes and a name. -/
  | named (name : String)
  /-- Two dashes, a name, an equals sign and a value. -/
  | assigned (name value : String)
  /-- Two dashes and nothing else. -/
  | divider
  /-- Any other word. -/
  | other
deriving DecidableEq, Repr

/-- Tells what a word is. -/
def CommandWord.of (word : String) : CommandWord :=
  match word.toList with
  | ['-', '-'] => divider
  | '-' :: '-' :: cs =>
    let name := String.ofList (cs.takeWhile (· != '='))
    match cs.dropWhile (· != '=') with
    | [] => named name
    | _ :: value => assigned name (String.ofList value)
  | _ => other

/-- Whether what follows a minus sign makes a number: a digit first, then digits and at
most one point, and digits behind the exponent mark if there is one. -/
def isNegatable (cs : List Char) : Bool :=
  let base := cs.takeWhile (!Decimal.isExponentMark ·)
  let exponent := (cs.dropWhile (!Decimal.isExponentMark ·)).drop 1
  base.head?.any Char.isDigit
    && base.all (fun c => c.isDigit || c == '.') && decide (base.count '.' ≤ 1)
    && exponent.all Char.isDigit && (decide (base = cs) || !exponent.isEmpty)

/-- Whether a word is taken for the value of the option before it. -/
def Operand.admits (o : Operand) (word : String) : Bool :=
  match word.toList with
  | '-' :: c :: cs => o == .number && isNegatable (c :: cs)
  | _ => true

/-- Reads options, given those that have come before with their values.  An option that
takes none has an empty value. -/
def readOptions (specs : List OptionSpec) (given : List (String × String)) :
    List String → Option (List (String × String))
  | [] => some given
  | word :: rest =>
    let operand? (name : String) : Option Operand :=
      if given.any (·.1 == name) then none
      else (specs.find? (·.name == name)).map (·.operand)
    match CommandWord.of word with
    | .divider => if rest.isEmpty then some given else none
    | .assigned name value =>
      match operand? name with
      | some .text | some .number => readOptions specs ((name, value) :: given) rest
      | _ => none
    | .named name =>
      match operand? name with
      | some .nothing => readOptions specs ((name, "") :: given) rest
      | some operand =>
        match rest with
        | value :: rest =>
          if operand.admits value then readOptions specs ((name, value) :: given) rest else none
        | [] => none
      | none => none
    | .other => none

/-! ### Commands -/

/-- What a command line asks for. -/
inductive Invocation where
  | execute (invoice : Command.Invoice) (json : Bool)
  | departments
  | rules
  | config
  | doctor (json : Bool)
deriving DecidableEq, Repr

namespace Invocation

/-- The options of `execute`. -/
def executeSpecs : List OptionSpec :=
  [⟨"amount", .number⟩, ⟨"department", .text⟩, ⟨"requires-manager-approval", .nothing⟩,
    ⟨"json", .nothing⟩]

/-- The options of `doctor`. -/
def doctorSpecs : List OptionSpec := [⟨"json", .nothing⟩]

/-- Whether an option has been given. -/
def isGiven (options : List (String × String)) (name : String) : Bool :=
  options.any (·.1 == name)

/-- What a command line asks for, if it is well formed. -/
def ofWords? : List String → Option Invocation
  | "execute" :: words => do
    let options ← readOptions executeSpecs [] words
    return .execute {
      amount := ← options.lookup "amount"
      department := ← options.lookup "department"
      requiresManagerApproval := isGiven options "requires-manager-approval" }
      (isGiven options "json")
  | "departments" :: words => (readOptions [] [] words).map fun _ => .departments
  | "rules" :: words => (readOptions [] [] words).map fun _ => .rules
  | "config" :: words => (readOptions [] [] words).map fun _ => .config
  | "doctor" :: words => do
    let options ← readOptions doctorSpecs [] words
    return .doctor (isGiven options "json")
  | _ => none

/-- Runs what a command line asks for. -/
def run (w : World) : Invocation → Answer
  | execute invoice json => Command.execute w invoice json
  | departments => Command.departments
  | rules => Command.rules w
  | config => Command.config w
  | doctor json => Command.doctor w json

end Invocation

/-- The exit code for a command line that is not well formed. -/
def usageExitCode : Nat := 2

/-- What is told about such a command line. -/
def usageText : String :=
  Answer.lines
    ["usage:",
      "  execute --amount NUMBER --department NAME [--requires-manager-approval] [--json]",
      "  departments",
      "  rules",
      "  config",
      "  doctor [--json]"]

end InvoiceApproval
