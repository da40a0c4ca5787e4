/-
Loading the catalog.

The settings may name a catalog file; where they do not, the built-in catalog is
used, which needs no review.
-/
import InvoiceApproval.Catalog
import InvoiceApproval.Settings

namespace InvoiceApproval.Catalog

/-- Loads the catalog file at a path, or the built-in catalog if there is no path. -/
def load (w : World) (path : Option String) (strict : Bool) : Desk Catalog := do
  match path with
  | none => return seed
  | some path =>
    match w.readText path with
    | .error cause => throw (.unreadable path cause.message)
    | .ok raw => parse raw path strict

/-- Loads the catalog that the settings ask for. -/
def ofSettings (w : World) (s : Settings) : Desk Catalog := load w s.catalogPath s.catalogStrict

/-- The catalog that the settings ask for, without what was told on the way. -/
def ofSettings? (w : World) (s : Settings) : Except CatalogError Catalog :=
  ((ofSettings w s).run Journal.empty).1

end InvoiceApproval.Catalog
