/-
Departments.

An invoice belongs to one of six departments, and an approver to one or to none.
People may write a department in any case; documents have to write its name exactly.
-/
import InvoiceApproval.Text.Case

namespace InvoiceApproval

/-- A department of the company. -/
inductive Department where
  | sales
  | marketing
  | engineering
  | finance
  | hr
  | operations
deriving DecidableEq, Repr

namespace Department

/-- Every department, in the order in which they are listed. -/
def all : List Department := [sales, marketing, engineering, finance, hr, operations]

/-- The name of a department. -/
def name : Department → String
  | sales => "SALES"
  | marketing => "MARKETING"
  | engineering => "ENGINEERING"
  | finance => "FINANCE"
  | hr => "HR"
  | operations => "OPERATIONS"

/-- The names of all departments, separated by commas. -/
def listing : String := ", ".intercalate (all.map name)

/-- The department of exactly this name. -/
def ofName? (s : String) : Option Department := all.find? (·.name == s)

/-- The department of this name, whatever the case of its letters. -/
def ofText? (s : String) : Option Department := ofName? (Text.asciiUpper s)

theorem mem_all (d : Department) : d ∈ all := by
  cases d <;> decide

theorem ofName?_name (d : Department) : ofName? d.name = some d := by
  cases d <;> rfl

/-- **A name stands for one department only.** -/
theorem ofName?_eq_some_iff {s : String} {d : Department} : ofName? s = some d ↔ s = d.name := by
  constructor
  · intro h
    have := List.find?_some h
    simpa using (beq_iff_eq.1 this).symm
  · rintro rfl
    exact ofName?_name d

/-- A name is written in capital letters. -/
theorem asciiUpper_name (d : Department) : Text.asciiUpper d.name = d.name := by
  cases d <;> decide

end Department

end InvoiceApproval
