/-
Loading the settings.

The file lies on the defaults, the variables on the file, and what the caller asks
for on top.  All variables are looked at, even those of settings that the caller
overrides.
-/
import InvoiceApproval.Settings.File
import InvoiceApproval.Settings.Variables

namespace InvoiceApproval.Settings

/-- What a caller asks for. -/
structure Wishes where
  /-- The settings file to use. -/
  filePath : Option String
  /-- Whether there has to be a settings file. -/
  requireFile : Bool
  /-- The settings that the caller fixes. -/
  overrides : Layer

/-- A caller who asks for nothing. -/
def Wishes.none : Wishes := ⟨.none, false, .silent⟩

/-- Settings that pass the check. -/
def check (s : Settings) : Except SettingsError Settings :=
  match s.violation? with
  | some violation => .error (.invalid violation)
  | none => .ok s

/-- Loads the settings. -/
def load (w : World) (wishes : Wishes) : Except SettingsError Settings := do
  let file ← Layer.ofFiles w wishes.filePath wishes.requireFile
  let environment ← Layer.ofVariables w
  check (((default.under file).under environment).under wishes.overrides)

end InvoiceApproval.Settings
