/-
The built-in catalog.

It is what the program works with when no catalog file is named, and it fills in for
the sections that a file leaves out.
-/
import InvoiceApproval.Rule

namespace InvoiceApproval.Seed

/-- The id of the built-in configuration. -/
def configurationId : String := "invoice-approval-workflow"

/-- The name of the built-in configuration. -/
def configurationName : String := "Invoice Approval Workflow"

/-- The built-in approvers. -/
def approvers : List Approver := [
  ⟨"emp-1", "John Smith", "john.smith@company.com", some .sales, false⟩,
  ⟨"emp-2", "Jane Doe", "jane.doe@company.com", some .marketing, false⟩,
  ⟨"emp-3", "Bob Wilson", "bob.wilson@company.com", some .engineering, false⟩,
  ⟨"mgr-sales", "Sales Manager", "sales.manager@company.com", some .sales, true⟩,
  ⟨"mgr-marketing", "Marketing Manager", "marketing.manager@company.com", some .marketing, true⟩,
  ⟨"mgr-engineering", "Engineering Manager", "engineering.manager@company.com",
    some .engineering, true⟩,
  ⟨"mgr-finance", "Finance Manager", "finance.manager@company.com", some .finance, true⟩,
  ⟨"vp-finance", "VP of Finance", "vp.finance@company.com", some .finance, true⟩,
  ⟨"cfo", "CFO", "cfo@company.com", some .finance, true⟩,
  ⟨"ceo", "CEO", "ceo@company.com", none, true⟩]

/-- The amount up to which an invoice counts as low. -/
def threshold : Decimal := .ofNat 1000

/-- A condition on the amount and on whether a manager has to approve. -/
def condition (comparison : Comparison) (managerApproval : Bool) : Condition :=
  .all [.amount comparison threshold, .managerApproval managerApproval]

/-- The built-in rules. -/
def rules : List Rule := [
  { id := "rule-1"
    name := "High Amount with Manager Approval"
    description := "Invoices over $1000 requiring manager approval go to CFO"
    condition := condition .greaterThan true
    approverIds := ["cfo"]
    priority := 1
    routing := .unfiltered },
  { id := "rule-2"
    name := "High Amount without Manager Approval"
    description := "Invoices over $1000 not requiring manager approval go to VP of Finance"
    condition := condition .greaterThan false
    approverIds := ["vp-finance"]
    priority := 2
    routing := .unfiltered },
  { id := "rule-3"
    name := "Low Amount with Manager Approval"
    description := "Invoices $1000 or less requiring manager approval go to department manager"
    condition := condition .lessThanOrEquals true
    approverIds := ["mgr-sales", "mgr-marketing", "mgr-engineering", "mgr-finance"]
    priority := 3
    routing := .managerInDepartment },
  { id := "rule-4"
    name := "Low Amount without Manager Approval"
    description := "Invoices $1000 or less not requiring manager approval go to employee"
    condition := condition .lessThanOrEquals false
    approverIds := ["emp-1", "emp-2", "emp-3"]
    priority := 4
    routing := .nonManagerInDepartment }]

/-- The built-in configuration. -/
def configuration : Configuration := ⟨configurationId, configurationName, rules⟩

end InvoiceApproval.Seed
