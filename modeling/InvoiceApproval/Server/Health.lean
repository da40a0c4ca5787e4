/-
Whether the service is ready.

The service is ready if there are rules and there are approvers.  What counts as
missing is a list that is empty as well as a store that does not answer.
-/
import InvoiceApproval.Data.Basic
import InvoiceApproval.Workflow

namespace InvoiceApproval

/-- How one kind of reference data stands. -/
structure Readiness where
  ready : Bool
  detail : String
deriving DecidableEq, Repr

namespace Readiness

/-- The name of a state. -/
def statusName (ready : Bool) : String := if ready then "ready" else "degraded"

/-- How reference data of a kind stand, given how many there are. -/
def ofCount (label : String) : Except CatalogError Nat → Readiness
  | .ok 0 => ⟨false, s!"no {label} loaded"⟩
  | .ok count => ⟨true, s!"{count} {label} loaded"⟩
  | .error error => ⟨false, s!"{label} unavailable: {error.message}"⟩

/-- How one kind of reference data stands, as a document. -/
def toData (r : Readiness) : Data :=
  .record [("status", .text (statusName r.ready)), ("detail", .text r.detail)]

end Readiness

/-- How the service stands. -/
structure Health where
  rules : Readiness
  approvers : Readiness
deriving DecidableEq, Repr

namespace Health

/-- How the service stands that works with an engine. -/
def ofEngine (e : Engine) : Health where
  rules := .ofCount "rules" (e.rules.fetch.map (·.rules.length))
  approvers := .ofCount "approvers" (e.directory.fetch.map Directory.size)

/-- Whether the service is ready. -/
def ready (h : Health) : Bool := h.rules.ready && h.approvers.ready

/-- How the service stands, as a document with the time of the answer. -/
def toData (h : Health) (checkedAt : String) : Data :=
  .record [("status", .text (Readiness.statusName h.ready)), ("rules", h.rules.toData),
    ("approvers", h.approvers.toData), ("checked_at", .text checkedAt)]

end Health

end InvoiceApproval
