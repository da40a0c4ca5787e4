/-
The settings file.

The file is the one that a caller names, or else the first of two places where one
may be kept.  It is TOML with placeholders for variables, in four sections; fields
and sections that are not known are for somebody else.
-/
import InvoiceApproval.Data.Row
import InvoiceApproval.Data.Toml.Reader
import InvoiceApproval.Settings

namespace InvoiceApproval

open Data (Row Strictness)

namespace Settings

/-! ### Finding it -/

/-- The places where a settings file is looked for if none is named. -/
def usualPaths : List String := ["invoiceflow.toml", "config/invoiceflow.toml"]

/-- The settings file that is used.  A named file that does not exist is not replaced by
another. -/
def filePath? (w : World) (named : Option String) : Option String :=
  match named with
  | some path => if w.hasPath path then some path else none
  | none => usualPaths.find? w.hasPath

/-! ### The sections -/

/-- The port that stands in a document. -/
def portOfData? (d : Data) : Option Nat := (d.intBetween? 0 (UInt16.size - 1)).map Int.toNat

/-- The seconds that stand in a document. -/
def secondsOfData? (d : Data) : Option Nat := (d.intBetween? 0 (UInt64.size - 1)).map Int.toNat

/-- The format that stands in a document, by its exact name. -/
def formatOfData? (d : Data) : Option LogFormat :=
  (d.name? Strictness.settings.isNothing).bind LogFormat.ofName?

/-- Takes what the section `server` says into a layer. -/
def Layer.withServer (layer : Layer) (d : Data) : Option Layer := do
  let row ← Row.of? .settings ["bind_address", "port", "request_timeout_secs"] d
  return { layer with
    bindAddress := ← row.optional 0 "bind_address" Data.text?
    port := ← row.optional 1 "port" portOfData?
    requestTimeoutSecs := ← row.optional 2 "request_timeout_secs" secondsOfData? }

/-- Takes what the section `catalog` says into a layer. -/
def Layer.withCatalog (layer : Layer) (d : Data) : Option Layer := do
  let row ← Row.of? .settings ["path", "strict"] d
  return { layer with
    catalogPath := ← row.optional 0 "path" Data.text?
    catalogStrict := ← row.optional 1 "strict" Data.bool? }

/-- Takes what the section `notifications` says into a layer. -/
def Layer.withNotifications (layer : Layer) (d : Data) : Option Layer := do
  let row ← Row.of? .settings ["channel"] d
  return { layer with channel := ← row.optional 0 "channel" Data.text? }

/-- Takes what the section `logging` says into a layer. -/
def Layer.withLogging (layer : Layer) (d : Data) : Option Layer := do
  let row ← Row.of? .settings ["level", "format"] d
  return { layer with
    logLevel := ← row.optional 0 "level" Data.text?
    logFormat := ← row.optional 1 "format" formatOfData? }

/-- Takes a section into a layer, if the document has it. -/
def Layer.withSection (layer : Layer) (document : List (String × Data)) (name : String)
    (take : Layer → Data → Option Layer) : Option Layer :=
  match document.lookup name with
  | some d => take layer d
  | none => some layer

/-- The layer that a document holds. -/
def Layer.ofDocument? (document : List (String × Data)) : Option Layer := do
  let layer ← Layer.silent.withSection document "server" Layer.withServer
  let layer ← layer.withSection document "catalog" Layer.withCatalog
  let layer ← layer.withSection document "notifications" Layer.withNotifications
  layer.withSection document "logging" Layer.withLogging

/-! ### Reading it -/

/-- The layer of the file at a path. -/
def Layer.ofFile (w : World) (path : String) : Except SettingsError Layer := do
  let raw ← (w.readText path).mapError (.unreadable path)
  let filled ← (interpolate w.value? raw).mapError .placeholder
  match (Toml.read? filled).bind Layer.ofDocument? with
  | some layer => return layer
  | none => throw (.malformed path Toml.failureText)

/-- The layer of the settings file. -/
def Layer.ofFiles (w : World) (named : Option String) (required : Bool) :
    Except SettingsError Layer :=
  match filePath? w named with
  | some path => Layer.ofFile w path
  | none =>
    if required then .error (.missing (named.getD "invoiceflow.toml")) else .ok .silent

end Settings

end InvoiceApproval
