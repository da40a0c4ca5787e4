/-
Answers of commands.

A command answers with a text for its caller and an exit code.  Zero means that all
is well.  A command that could not do its work says so in one line of JSON, which
names the class of the failure.  Settings, reference data and requests each have an exit
code of their own for what can be wrong with them, and one stands for anything else.
-/
import InvoiceApproval.Catalog.Loading
import InvoiceApproval.Data.JsonWriter
import InvoiceApproval.Failure
import InvoiceApproval.Settings.Loading

namespace InvoiceApproval

/-- What a command gives back. -/
structure Answer where
  exitCode : Nat
  output : String
deriving DecidableEq, Repr

/-- The answer of a command that has done its work. -/
def Answer.done (output : String) : Answer := ⟨0, output⟩

/-- Lines of text with a line break between each two. -/
def Answer.lines (ls : List String) : String := "\n".intercalate ls

/-! ### Failures -/

/-- Why a command could not do its work. -/
inductive CommandFailure where
  | settings (cause : SettingsError)
  | catalog (cause : CatalogError)
  | validation (cause : ValidationError)
  /-- Something else went wrong inside. -/
  | internal (reason : String)
  /-- What is to be shown cannot be written. -/
  | unwritable (reason : String)
deriving DecidableEq

namespace CommandFailure

/-- A request that was not carried out makes its command fail. -/
def ofFailure : Failure → CommandFailure
  | .validation cause => validation cause
  | .catalog cause => catalog cause
  | .internal reason => internal reason

/-- The class of a failure. -/
def className : CommandFailure → String
  | settings _ => "config_validation"
  | catalog _ => "catalog"
  | validation _ => "validation"
  | internal _ => "internal"
  | unwritable _ => "serialization"

/-- The exit code of a failure. -/
def exitCode : CommandFailure → Nat
  | settings _ => 2
  | catalog _ => 3
  | validation _ => 4
  | internal _ | unwritable _ => 1

/-- The wording of a failure. -/
def message : CommandFailure → String
  | settings cause => s!"configuration issue: {cause.message}"
  | catalog cause => cause.message
  | validation cause => cause.message
  | internal reason | unwritable reason => reason

/-- What is told of a command that failed, given the class and the wording of the failure. -/
def report (command className message : String) : Data :=
  .record [("command", .text command), ("status", .text "error"),
    ("error_class", .text className), ("message", .text message)]

/-- A failure of a command as a document. -/
def toData (command : String) (f : CommandFailure) : Data := report command f.className f.message

/-- The answer of a command that failed. -/
def answer (command : String) (f : CommandFailure) : Answer :=
  ⟨f.exitCode, (f.toData command).toJson⟩

end CommandFailure

/-! ### What commands work with -/

/-- The settings and the catalog that they ask for. -/
structure Reference where
  settings : Settings
  catalog : Catalog

/-- Loads the settings, and then the catalog. -/
def Reference.load (w : World) : Except CommandFailure Reference := do
  let settings ← (Settings.load w .none).mapError .settings
  let catalog ← (Catalog.ofSettings? w settings).mapError .catalog
  return ⟨settings, catalog⟩

end InvoiceApproval
