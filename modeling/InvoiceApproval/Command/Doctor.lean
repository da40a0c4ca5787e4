/-
The command that checks whether the program is ready.

Three checks build on each other: the settings load, the catalog loads and is not
empty, and a sample request runs.  A check that cannot be made because an earlier
one has failed is skipped.  An empty catalog fails its check, but the sample runs
on it all the same.
-/
import InvoiceApproval.Command.Answer
import InvoiceApproval.Response

namespace InvoiceApproval

/-- How a check has gone. -/
inductive CheckStatus where
  | pass
  | fail
  | skipped
deriving DecidableEq, Repr

namespace CheckStatus

/-- The name of a status in a document. -/
def name : CheckStatus → String
  | pass => "pass"
  | fail => "fail"
  | skipped => "skipped"

/-- The mark of a status in a text. -/
def marker : CheckStatus → String
  | pass => "ok"
  | fail => "fail"
  | skipped => "skip"

end CheckStatus

/-- One check and how it has gone. -/
structure Check where
  name : String
  status : CheckStatus
  details : String
deriving DecidableEq, Repr

namespace Check

/-- A check as a document. -/
def toData (c : Check) : Data :=
  .record [("name", .text c.name), ("status", .text c.status.name), ("details", .text c.details)]

/-- A check as a line of text. -/
def line (c : Check) : String := s!"- [{c.status.marker}] {c.name}: {c.details}"

/-! ### The three checks -/

/-- The check of the settings. -/
def settings (status : CheckStatus) (details : String) : Check :=
  ⟨"config_validation", status, details⟩

/-- The check of the catalog. -/
def catalog (status : CheckStatus) (details : String) : Check := ⟨"catalog_load", status, details⟩

/-- The check of a sample request. -/
def routing (status : CheckStatus) (details : String) : Check := ⟨"sample_routing", status, details⟩

/-- The sample: one hundred for sales, with no manager asked for. -/
def sample : ApprovalRequest := ⟨.ofNat 100, .sales, false, by decide⟩

/-- Checks a catalog that has been loaded from a path or is the built-in one. -/
def ofCatalog (path : Option String) (c : Catalog) : Check :=
  let source := (path.map fun path => s!"`{path}`").getD "built-in seed"
  let approvers := c.directory.size
  let rules := c.configuration.rules.length
  if approvers = 0 ∨ rules = 0 then
    catalog .fail
      s!"{source} loaded but is empty ({approvers} approver(s), {rules} rule(s))"
  else catalog .pass s!"{source}: {approvers} approver(s), {rules} rule(s)"

/-- Runs the sample on a catalog. -/
def ofSample (c : Catalog) : Check :=
  match ((c.engine .outbox).run sample Journal.empty).1 with
  | .ok o => routing .pass <|
    s!"100 / SALES / no manager approval matched {o.rulesApplied.length} rule(s) "
      ++ s!"and selected {o.selected.length} approver(s)"
  | .error error => routing .fail error.message

/-- Every check, in its order. -/
def all (w : World) : List Check :=
  match Settings.load w .none with
  | .error error =>
    [settings .fail error.message,
      catalog .skipped "skipped because configuration did not load",
      routing .skipped "skipped because configuration did not load"]
  | .ok s =>
    settings .pass "configuration loaded and validated" ::
      match Catalog.ofSettings? w s with
      | .error error =>
        [catalog .fail error.message, routing .skipped "skipped because catalog did not load"]
      | .ok c => [ofCatalog s.catalogPath c, ofSample c]

end Check

/-- What all checks together say. -/
structure Diagnosis where
  checks : List Check

namespace Diagnosis

/-- Whether every check has passed. -/
def passed (d : Diagnosis) : Bool := d.checks.all (·.status == .pass)

/-- All checks in one sentence. -/
def summary (d : Diagnosis) : String :=
  if d.passed then "doctor: all readiness checks passed"
  else "doctor: one or more readiness checks failed"

/-- A diagnosis as a document. -/
def toData (d : Diagnosis) : Data :=
  .record [
    ("overall_status", .text (if d.passed then CheckStatus.pass else CheckStatus.fail).name),
    ("summary", .text d.summary), ("checks", .list (d.checks.map Check.toData))]

/-- A diagnosis as text. -/
def text (d : Diagnosis) : String := Answer.lines (d.summary :: d.checks.map Check.line)

end Diagnosis

/-- Checks whether the program is ready. -/
def Command.doctor (w : World) (json : Bool) : Answer :=
  let d : Diagnosis := ⟨Check.all w⟩
  ⟨if d.passed then 0 else 1, if json then d.toData.toIndentedJson else d.text⟩

end InvoiceApproval
