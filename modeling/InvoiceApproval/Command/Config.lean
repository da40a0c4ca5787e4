/-
The command that shows the settings and where each of them comes from.

A setting comes from the variable that speaks of it, else from the file if the file
has a field of its name, else from the defaults.  The file is looked at as it is
written, with its placeholders still in it; if it is not TOML like that, no setting
is said to come from it.
-/
import InvoiceApproval.Command.Answer

namespace InvoiceApproval

/-- The value of a setting as text. -/
def Settings.valueText (s : Settings) : Settings.Key → String
  | .bindAddress => s.bindAddress
  | .port => toString s.port
  | .requestTimeoutSecs => toString s.requestTimeoutSecs
  | .catalogPath => s.catalogPath.getD "<built-in seed>"
  | .catalogStrict => Text.ofBool s.catalogStrict
  | .channel => s.channel
  | .logLevel => s.logLevel
  | .logFormat => s.logFormat.name

/-- The name of a setting as text. -/
def Settings.Key.label (k : Settings.Key) : String := s!"{k.place.1}.{k.place.2}"

/-- Where a setting comes from. -/
inductive SettingSource where
  | environment (name : String)
  | file (path : String)
  | default
deriving DecidableEq, Repr

namespace SettingSource

/-- The name of a source. -/
def label : SettingSource → String
  | environment name => s!"env ({name})"
  | file path => s!"file ({path})"
  | default => "default"

/-- A file and the document that stands in it. -/
structure RawFile where
  path : String
  document : Data

/-- The settings file as it is written. -/
def rawFile? (w : World) : Option RawFile := do
  let path ← Settings.filePath? w none
  match w.readText path with
  | .error _ => none
  | .ok raw => return ⟨path, ← Toml.readMoments? (.record (← Toml.read? raw))⟩

/-- Whether a document has a field for a setting. -/
def speaksOf (document : Data) (k : Settings.Key) : Bool :=
  ((document.field? k.place.1).bind (·.field? k.place.2)).isSome

/-- Where a setting comes from. -/
def of (w : World) (k : Settings.Key) : SettingSource :=
  match Settings.variableFor? w k with
  | some (name, _) => environment name
  | none =>
    match (rawFile? w).filter fun file => speaksOf file.document k with
    | some raw => file raw.path
    | none => default

end SettingSource

namespace Command

/-- A setting, its value and its source as a line of text. -/
def settingLine (w : World) (s : Settings) (k : Settings.Key) : String :=
  s!"- {k.label} = {s.valueText k} (source: {(SettingSource.of w k).label})"

/-- Shows the settings. -/
def config (w : World) : Answer :=
  match Settings.load w .none with
  | .error error => .done s!"config validation failed: {error.message}"
  | .ok s =>
    .done (Answer.lines ("effective config (source precedence: env > file > default):"
      :: Settings.Key.all.map (settingLine w s)))

end Command

end InvoiceApproval
