/-
Failures of the reference data.
-/
namespace InvoiceApproval

/-- Why rules or approvers cannot be had. -/
inductive CatalogError where
  /-- The store does not answer. -/
  | unavailable (reason : String)
  /-- The file cannot be read. -/
  | unreadable (path : String) (reason : String)
  /-- The text is not a catalog. -/
  | malformed (origin : String) (reason : String)
  /-- The catalog contradicts itself. -/
  | invalid (reason : String)
deriving DecidableEq, Repr

/-- The wording of a failure. -/
def CatalogError.message : CatalogError → String
  | .unavailable reason => s!"reference data unavailable: {reason}"
  | .unreadable path reason => s!"could not read catalog `{path}`: {reason}"
  | .malformed origin reason => s!"could not parse catalog `{origin}`: {reason}"
  | .invalid reason => s!"invalid catalog: {reason}"

/-- Reference data that is there, or a store that fails whenever it is asked. -/
inductive Source (α : Type) where
  | available (value : α)
  | offline (reason : String)

/-- Asks for the reference data. -/
def Source.fetch {α : Type} : Source α → Except CatalogError α
  | .available value => .ok value
  | .offline reason => .error (.unavailable reason)

end InvoiceApproval
