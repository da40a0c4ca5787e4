/-
Settings.

Eight settings say how the program runs.  Each has a default, and layers lie on top
of the defaults: a file, the variables, and what a caller asks for.  A layer holds
the settings that it speaks of and leaves the others alone, so what counts is the
topmost layer that speaks.

Settings are checked once all layers are in place.
-/
import InvoiceApproval.Settings.Interpolation
import InvoiceApproval.Text.Case
import InvoiceApproval.Text.Blank
import InvoiceApproval.World

namespace InvoiceApproval

/-- How the event log is printed. -/
inductive LogFormat where
  | compact
  | pretty
  | json
deriving DecidableEq, Repr

namespace LogFormat

/-- Every format. -/
def all : List LogFormat := [compact, pretty, json]

/-- The name of a format. -/
def name : LogFormat → String
  | compact => "compact"
  | pretty => "pretty"
  | json => "json"

/-- The format of exactly this name. -/
def ofName? (s : String) : Option LogFormat := all.find? (·.name == s)

end LogFormat

/-- How the program runs. -/
structure Settings where
  bindAddress : String
  port : Nat
  requestTimeoutSecs : Nat
  /-- The catalog file; without one the built-in catalog is used. -/
  catalogPath : Option String
  /-- Whether a catalog with a condition that orders departments is refused. -/
  catalogStrict : Bool
  channel : String
  logLevel : String
  logFormat : LogFormat
deriving DecidableEq, Repr

/-! ### What can be wrong -/

/-- A value that a setting cannot have. -/
inductive SettingsViolation where
  | blankBindAddress
  | zeroPort
  | timeoutOutOfRange
  | emptyCatalogPath
  | blankChannel
  | unknownLogLevel
  | unknownLogFormat (name : String)
deriving DecidableEq, Repr

/-- The wording of a violation. -/
def SettingsViolation.message : SettingsViolation → String
  | .blankBindAddress => "server.bind_address must not be empty"
  | .zeroPort => "server.port must be greater than zero"
  | .timeoutOutOfRange => "server.request_timeout_secs must be in range 1..=300"
  | .emptyCatalogPath => "catalog.path must not be empty when set"
  | .blankChannel => "notifications.channel must not be empty"
  | .unknownLogLevel => "logging.level must be one of trace|debug|info|warn|error"
  | .unknownLogFormat name =>
    s!"unsupported log format `{name}` (expected compact|pretty|json)"

/-- Why there are no settings to run with. -/
inductive SettingsError where
  /-- The file cannot be read. -/
  | unreadable (path : String) (cause : FileError)
  /-- The file does not hold settings. -/
  | malformed (path : String) (reason : String)
  /-- A file was asked for, and there is none. -/
  | missing (path : String)
  /-- A placeholder in the file cannot be filled. -/
  | placeholder (cause : PlaceholderError)
  /-- A variable has a value that its setting cannot take. -/
  | badVariable (name value : String)
  /-- The settings do not pass the check. -/
  | invalid (violation : SettingsViolation)
deriving DecidableEq, Repr

/-- The wording of an error. -/
def SettingsError.message : SettingsError → String
  | .unreadable path cause => s!"could not read config file `{path}`: {cause.message}"
  | .malformed path reason => s!"could not parse config file `{path}`: {reason}"
  | .missing path => s!"required config file was not found: `{path}`"
  | .placeholder (.unset name) =>
    s!"environment variable interpolation failed for `{name}`"
  | .placeholder .unclosed => "unterminated environment interpolation expression"
  | .badVariable name value => s!"invalid environment override for `{name}`: `{value}`"
  | .invalid violation => s!"configuration validation failed: {violation.message}"

/-- The format that a person means: blanks around the name and the case of its letters
do not count. -/
def LogFormat.parse (s : String) : Except SettingsError LogFormat :=
  let name := Text.asciiLower (Text.trim s)
  match LogFormat.ofName? name with
  | some format => .ok format
  | none => .error (.invalid (.unknownLogFormat name))

namespace Settings

/-- The settings where nobody says anything. -/
def default : Settings where
  bindAddress := "127.0.0.1"
  port := 8080
  requestTimeoutSecs := 10
  catalogPath := none
  catalogStrict := true
  channel := "slack"
  logLevel := "info"
  logFormat := .compact

/-! ### Layers -/

/-- The settings that one source speaks of. -/
structure Layer where
  bindAddress : Option String
  port : Option Nat
  requestTimeoutSecs : Option Nat
  catalogPath : Option String
  catalogStrict : Option Bool
  channel : Option String
  logLevel : Option String
  logFormat : Option LogFormat
deriving DecidableEq, Repr

/-- A layer that says nothing. -/
def Layer.silent : Layer := ⟨none, none, none, none, none, none, none, none⟩

/-- Settings with a layer on top. -/
def under (s : Settings) (top : Layer) : Settings where
  bindAddress := top.bindAddress.getD s.bindAddress
  port := top.port.getD s.port
  requestTimeoutSecs := top.requestTimeoutSecs.getD s.requestTimeoutSecs
  catalogPath := top.catalogPath.or s.catalogPath
  catalogStrict := top.catalogStrict.getD s.catalogStrict
  channel := top.channel.getD s.channel
  logLevel := top.logLevel.getD s.logLevel
  logFormat := top.logFormat.getD s.logFormat

/-! ### The check -/

/-- The levels that the event log knows. -/
def logLevels : List String := ["trace", "debug", "info", "warn", "error"]

/-- The first violation, in the order in which the settings are listed. -/
def violation? (s : Settings) : Option SettingsViolation :=
  if Text.isBlankText s.bindAddress then some .blankBindAddress
  else if s.port = 0 then some .zeroPort
  else if s.requestTimeoutSecs = 0 ∨ 300 < s.requestTimeoutSecs then some .timeoutOutOfRange
  else if s.catalogPath = some "" then some .emptyCatalogPath
  else if Text.isBlankText s.channel then some .blankChannel
  else if Text.asciiLower (Text.trim s.logLevel) ∈ logLevels then none
  else some .unknownLogLevel

end Settings

end InvoiceApproval
