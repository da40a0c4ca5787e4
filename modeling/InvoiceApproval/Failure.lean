/-
Failures as callers see them.

Running a request fails on the request itself or on the reference data.  What the
caller is told depends on whose fault it is.  A request that is wrong is sent back
with the reason.  Anything else is the program's own affair: the caller gets a fixed
sentence, and the reason stays inside.
-/
import InvoiceApproval.Catalog.Error
import InvoiceApproval.Data.Basic
import InvoiceApproval.Request

namespace InvoiceApproval

/-- Why a request was not carried out. -/
inductive Failure where
  /-- The request is wrong. -/
  | validation (cause : ValidationError)
  /-- The rules or the approvers cannot be had. -/
  | catalog (cause : CatalogError)
  /-- Something else went wrong inside. -/
  | internal (reason : String)
deriving DecidableEq

/-- The wording of a failure, for the log. -/
def Failure.message : Failure → String
  | .validation cause => cause.message
  | .catalog cause => cause.message
  | .internal reason => s!"internal failure: {reason}"

/-- Whose fault a failure is. -/
inductive Blame where
  | caller
  | program
deriving DecidableEq, Repr

/-- A failure on its way to the caller. -/
structure Refusal where
  blame : Blame
  /-- What went wrong; it may tell more than the caller is to know. -/
  message : String
  /-- The mark under which the log has the failure. -/
  correlationId : String
deriving DecidableEq, Repr

namespace Refusal

/-- The mark of a failure that has none of its own. -/
def unassigned : String := "unassigned"

/-- The wording of a refusal, for the log. -/
def display (r : Refusal) : String :=
  match r.blame with
  | .caller => s!"bad request: {r.message}"
  | .program => s!"internal error: {r.message}"

/-- The code that a caller gets. -/
def code (r : Refusal) : String :=
  match r.blame with
  | .caller => "INVALID_REQUEST"
  | .program => "INTERNAL_ERROR"

/-- What a caller is told. -/
def userMessage (r : Refusal) : String :=
  match r.blame with
  | .caller => r.message
  | .program => "An error occurred while processing the workflow"

/-- A refusal as a document for the caller. -/
def toData (r : Refusal) : Data :=
  .record [("success", .bool false), ("error", .text r.code), ("message", .text r.userMessage)]

end Refusal

/-- What the caller of a failed run is told. -/
def Failure.refusal (correlationId : String) : Failure → Refusal
  | .validation cause => ⟨.caller, cause.message, correlationId⟩
  | .catalog cause => ⟨.program, cause.message, correlationId⟩
  | .internal reason => ⟨.program, reason, correlationId⟩

end InvoiceApproval
