/-
Catalogs.

A catalog is the reference data that people keep in a file: the approvers and the
rules.  What the file leaves out comes from the built-in catalog, section by
section.

A catalog is reviewed before it is used.  Ids of approvers and of rules are unique,
no approver's id and no rule's name is blank, and a condition that orders
departments is refused, or, if the reader is lenient, only warned about.  An id on a
rule that no approver has is always just a warning, since it is skipped when the
rule is used.
-/
import InvoiceApproval.Catalog.Seed
import InvoiceApproval.Data.Toml.Reader
import InvoiceApproval.Rule.Codec
import InvoiceApproval.Workflow

namespace InvoiceApproval

open Data (Row)

/-- Reference data: the rules and the approvers. -/
structure Catalog where
  configuration : Configuration
  approvers : List Approver
deriving DecidableEq

/-! ### Review -/

/-- What makes a catalog unusable. -/
inductive Violation where
  | blankApproverId
  | repeatedApproverId (id : String)
  | repeatedRuleId (id : String)
  | unnamedRule (id : String)
  | unorderedComparison (ruleId : String) (complaint : UnorderedComparison)
deriving DecidableEq

/-- The wording of a violation. -/
def Violation.message : Violation → String
  | .blankApproverId => "approver ids must not be empty"
  | .repeatedApproverId id => s!"duplicate approver id `{id}`"
  | .repeatedRuleId id => s!"duplicate rule id `{id}`"
  | .unnamedRule id => s!"rule `{id}` must have a non-empty name"
  | .unorderedComparison id complaint => s!"rule `{id}`: {complaint.message}"

/-- The failure that a violation causes. -/
def Violation.error (v : Violation) : CatalogError := .invalid v.message

namespace Catalog

/-- Reference data is read before any request comes in. -/
def bootstrapDetail : String × String := ("correlation_id", "bootstrap")

/-- A rule has a condition that orders departments. -/
def unsatisfiableEvent (rule : Rule) (complaint : UnorderedComparison) : Event :=
  ⟨.warn, "rule condition contains a comparison that always evaluates to false",
    "system.catalog.unsatisfiable_condition",
    [bootstrapDetail, ("rule_id", rule.id), ("error", complaint.message)]⟩

/-- A rule names an approver that does not exist. -/
def unknownApproverEvent (rule : Rule) (id : String) : Event :=
  ⟨.warn, "rule references an approver missing from the directory",
    "system.catalog.unknown_approver",
    [bootstrapDetail, ("rule_id", rule.id), ("approver_id", id)]⟩

/-- Reviews approvers, given the ids that have come before. -/
def reviewApprovers (seen : List String) : List Approver → Except Violation Unit
  | [] => .ok ()
  | a :: as =>
    if Text.isBlankText a.id then .error .blankApproverId
    else if a.id ∈ seen then .error (.repeatedApproverId a.id)
    else reviewApprovers (a.id :: seen) as

/-- Reviews one rule, given the ids of rules that have come before: the violation that
it is refused for, or else the warnings that it gives rise to. -/
def reviewRule (strict : Bool) (approvers : List Approver) (seen : List String) (rule : Rule) :
    Except Violation (List Event) :=
  if rule.id ∈ seen then .error (.repeatedRuleId rule.id)
  else if Text.isBlankText rule.name then .error (.unnamedRule rule.id)
  else
    let unknown := rule.approverIds.filter fun id => !approvers.any (·.id == id)
    let warnings := unknown.map (unknownApproverEvent rule)
    match rule.condition.firstUnordered with
    | none => .ok warnings
    | some complaint =>
      if strict then .error (.unorderedComparison rule.id complaint)
      else .ok (unsatisfiableEvent rule complaint :: warnings)

/-- Ends a step with a violation, if there is one. -/
def refuse {α : Type} (x : Except Violation α) : Desk α :=
  ExceptT.mk (pure (x.mapError Violation.error))

/-- Reviews rules, given the ids of rules that have come before. -/
def reviewRules (strict : Bool) (approvers : List Approver) (seen : List String) :
    List Rule → Desk Unit
  | [] => pure ()
  | rule :: rules => do
    let warnings ← refuse (reviewRule strict approvers seen rule)
    tellAll warnings
    reviewRules strict approvers (rule.id :: seen) rules

/-- Reviews a catalog: the approvers first, then the rules, each in their order. -/
def review (strict : Bool) (c : Catalog) : Desk Unit := do
  refuse (reviewApprovers [] c.approvers)
  reviewRules strict c.approvers [] c.configuration.rules

/-! ### Reading -/

/-- The fields of a catalog. -/
def fieldNames : List String := ["id", "name", "approvers", "rules"]

/-- The catalog that a document holds. -/
def ofData? (d : Data) : Option Catalog := do
  let row ← Row.of? .reference fieldNames d
  let id ← row.optional 0 "id" Data.text?
  let name ← row.optional 1 "name" Data.text?
  let approvers ← row.optional 2 "approvers" fun d =>
    d.list?.bind (·.mapM (Approver.ofData? .reference))
  let rules ← row.optional 3 "rules" fun d => d.list?.bind (·.mapM Rule.ofEntry?)
  return {
    configuration := {
      id := id.getD Seed.configurationId
      name := name.getD Seed.configurationName
      rules := rules.getD Seed.rules }
    approvers := approvers.getD Seed.approvers }

/-- The catalog that a TOML text holds, before review. -/
def decode? (raw : String) : Option Catalog := do
  ofData? (.record (← Toml.read? raw))

/-- Reads and reviews a catalog.  Where the text came from is told if it is no catalog. -/
def parse (raw origin : String) (strict : Bool) : Desk Catalog := do
  match decode? raw with
  | none => throw (.malformed origin Toml.failureText)
  | some catalog =>
    catalog.review strict
    return catalog

/-- The built-in catalog. -/
def seed : Catalog := ⟨Seed.configuration, Seed.approvers⟩

/-- The directory of the approvers of a catalog. -/
def directory (c : Catalog) : Directory := Directory.ofList c.approvers

/-- The engine that works with a catalog. -/
def engine (c : Catalog) (notifier : Notifier) : Engine :=
  ⟨.available c.configuration, .available c.directory, notifier⟩

end Catalog

end InvoiceApproval
