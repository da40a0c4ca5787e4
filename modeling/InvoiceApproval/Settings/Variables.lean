/-
Settings from variables.

Every setting has a variable, and those of the event log have a shorter second one
that is used if the first says nothing.  A variable with a blank value counts as not
set.
-/
import InvoiceApproval.Settings
import InvoiceApproval.Text.Unsigned

namespace InvoiceApproval.Settings

/-- The eight settings. -/
inductive Key where
  | bindAddress
  | port
  | requestTimeoutSecs
  | catalogPath
  | catalogStrict
  | channel
  | logLevel
  | logFormat
deriving DecidableEq, Repr

namespace Key

/-- Every setting, in the order in which they are listed. -/
def all : List Key :=
  [bindAddress, port, requestTimeoutSecs, catalogPath, catalogStrict, channel, logLevel, logFormat]

theorem mem_all (k : Key) : k ∈ all := by
  cases k <;> decide

/-- The section and the name of a setting in a file. -/
def place : Key → String × String
  | bindAddress => ("server", "bind_address")
  | port => ("server", "port")
  | requestTimeoutSecs => ("server", "request_timeout_secs")
  | catalogPath => ("catalog", "path")
  | catalogStrict => ("catalog", "strict")
  | channel => ("notifications", "channel")
  | logLevel => ("logging", "level")
  | logFormat => ("logging", "format")

/-- The variables that a setting is taken from, the first one first. -/
def variableNames : Key → List String
  | bindAddress => ["INVOICEFLOW_SERVER_BIND_ADDRESS"]
  | port => ["INVOICEFLOW_SERVER_PORT"]
  | requestTimeoutSecs => ["INVOICEFLOW_SERVER_REQUEST_TIMEOUT_SECS"]
  | catalogPath => ["INVOICEFLOW_CATALOG_PATH"]
  | catalogStrict => ["INVOICEFLOW_CATALOG_STRICT"]
  | channel => ["INVOICEFLOW_NOTIFICATIONS_CHANNEL"]
  | logLevel => ["INVOICEFLOW_LOGGING_LEVEL", "INVOICEFLOW_LOG_LEVEL"]
  | logFormat => ["INVOICEFLOW_LOGGING_FORMAT", "INVOICEFLOW_LOG_FORMAT"]

end Key

/-! ### Looking at a variable -/

/-- The value of a variable that is set and not blank. -/
def filledValue? (w : World) (name : String) : Option String :=
  (w.value? name).filter fun value => !Text.isBlankText value

/-- The variable that speaks of a setting, with its value. -/
def variableFor? (w : World) (k : Key) : Option (String × String) :=
  k.variableNames.findSome? fun name => (filledValue? w name).map fun value => (name, value)

/-- The text that the variables give to a setting. -/
def textFor? (w : World) (k : Key) : Option String := (variableFor? w k).map (·.2)

/-- The value that the variables give to a setting, if it can be read. -/
def valueFor {α : Type} (w : World) (k : Key) (read : String → Option α) :
    Except SettingsError (Option α) :=
  match variableFor? w k with
  | none => .ok none
  | some (name, value) =>
    match read value with
    | some a => .ok (some a)
    | none => .error (.badVariable name value)

/-! ### The layer -/

/-- A truth value as a variable has it. -/
def readFlag : String → Option Bool
  | "true" => some true
  | "false" => some false
  | _ => none

/-- The layer of the variables.  The first one whose value cannot be read is complained
about, in the order in which the settings are listed. -/
def Layer.ofVariables (w : World) : Except SettingsError Layer := do
  let port ← valueFor w .port fun s => Text.unsignedBelow? UInt16.size s.toList
  let timeout ← valueFor w .requestTimeoutSecs fun s => Text.unsignedBelow? UInt64.size s.toList
  let strict ← valueFor w .catalogStrict readFlag
  let format ← (textFor? w .logFormat).mapM LogFormat.parse
  return {
    bindAddress := textFor? w .bindAddress
    port := port
    requestTimeoutSecs := timeout
    catalogPath := textFor? w .catalogPath
    catalogStrict := strict
    channel := textFor? w .channel
    logLevel := textFor? w .logLevel
    logFormat := format }

end InvoiceApproval.Settings
