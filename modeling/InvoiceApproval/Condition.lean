/-
Conditions.

A rule applies to the requests that its condition holds of.  A condition is a tree:
its leaves compare the amount with a threshold, compare the department, or ask
whether a manager has to approve, and its branches join conditions.

Every condition has a truth value for every request.  Departments have no order, so
a leaf that orders them holds of no request at all; `firstUnordered` finds the first
such leaf, and whoever reads conditions from a file can refuse it.
-/
import InvoiceApproval.Request

namespace InvoiceApproval

/-! ### Comparisons -/

/-- A way to compare. -/
inductive Comparison where
  | equals
  | notEquals
  | greaterThan
  | greaterThanOrEquals
  | lessThan
  | lessThanOrEquals
deriving DecidableEq, Repr

namespace Comparison

/-- Every comparison. -/
def all : List Comparison :=
  [equals, notEquals, greaterThan, greaterThanOrEquals, lessThan, lessThanOrEquals]

/-- The name of a comparison in a document. -/
def name : Comparison → String
  | equals => "equals"
  | notEquals => "not_equals"
  | greaterThan => "greater_than"
  | greaterThanOrEquals => "greater_than_or_equals"
  | lessThan => "less_than"
  | lessThanOrEquals => "less_than_or_equals"

/-- The name of a comparison in a message to a person. -/
def title : Comparison → String
  | equals => "Equals"
  | notEquals => "NotEquals"
  | greaterThan => "GreaterThan"
  | greaterThanOrEquals => "GreaterThanOrEquals"
  | lessThan => "LessThan"
  | lessThanOrEquals => "LessThanOrEquals"

/-- The comparison of this name. -/
def ofName? (s : String) : Option Comparison := all.find? (·.name == s)

/-- Whether a comparison holds of two things that stand in this order. -/
def holds : Comparison → Ordering → Bool
  | equals, o => o == .eq
  | notEquals, o => o != .eq
  | greaterThan, o => o == .gt
  | greaterThanOrEquals, o => o != .lt
  | lessThan, o => o == .lt
  | lessThanOrEquals, o => o != .gt

/-- Whether a comparison makes sense without an order. -/
def isEquality (c : Comparison) : Bool := c == equals || c == notEquals

theorem ofName?_name (c : Comparison) : ofName? c.name = some c := by
  cases c <;> rfl

end Comparison

/-! ### Conditions -/

/-- A condition on requests. -/
inductive Condition where
  /-- Compares the amount with a threshold. -/
  | amount (comparison : Comparison) (threshold : Decimal)
  /-- Compares the department with one. -/
  | department (comparison : Comparison) (expected : Department)
  /-- Asks whether a manager has to approve. -/
  | managerApproval (required : Bool)
  /-- Holds if every part holds; with no parts it always does. -/
  | all (parts : List Condition)
  /-- Holds if some part holds; with no parts it never does. -/
  | any (parts : List Condition)

/-- A leaf that orders departments. -/
structure UnorderedComparison where
  comparison : Comparison
deriving DecidableEq

/-- The wording of the complaint about such a leaf. -/
def UnorderedComparison.message (u : UnorderedComparison) : String :=
  s!"department conditions only support equals/not_equals, found `{u.comparison.title}`"

namespace Condition

/-- Whether a comparison of departments holds.  One that asks for an order never does. -/
def departmentHolds (comparison : Comparison) (actual expected : Department) : Bool :=
  match comparison with
  | .equals => actual == expected
  | .notEquals => actual != expected
  | _ => false

mutual

/-- Whether a condition holds of a request. -/
def holds (r : ApprovalRequest) : Condition → Bool
  | .amount comparison threshold => comparison.holds (r.amount.compare threshold)
  | .department comparison expected => departmentHolds comparison r.department expected
  | .managerApproval wanted => r.requiresManagerApproval == wanted
  | .all parts => allHold r parts
  | .any parts => anyHolds r parts

/-- Whether every condition of a list holds. -/
def allHold (r : ApprovalRequest) : List Condition → Bool
  | [] => true
  | c :: cs => holds r c && allHold r cs

/-- Whether some condition of a list holds. -/
def anyHolds (r : ApprovalRequest) : List Condition → Bool
  | [] => false
  | c :: cs => holds r c || anyHolds r cs

end

mutual

/-- The first leaf, from left to right, that orders departments. -/
def firstUnordered : Condition → Option UnorderedComparison
  | .department comparison _ => if comparison.isEquality then none else some ⟨comparison⟩
  | .amount .. | .managerApproval _ => none
  | .all parts | .any parts => firstUnorderedIn parts

/-- The first such leaf in a list of conditions. -/
def firstUnorderedIn : List Condition → Option UnorderedComparison
  | [] => none
  | c :: cs => (firstUnordered c).or (firstUnorderedIn cs)

end

/-- What holds of the leaves, and of a branch whenever it holds of its parts, holds of
every condition. -/
@[elab_as_elim, induction_eliminator]
theorem induction_parts {motive : Condition → Prop}
    (amount : ∀ comparison threshold, motive (.amount comparison threshold))
    (department : ∀ comparison expected, motive (.department comparison expected))
    (managerApproval : ∀ wanted, motive (.managerApproval wanted))
    (all : ∀ parts : List Condition, (∀ c ∈ parts, motive c) → motive (.all parts))
    (any : ∀ parts : List Condition, (∀ c ∈ parts, motive c) → motive (.any parts))
    (c : Condition) : motive c :=
  @Condition.rec motive (fun cs => ∀ c ∈ cs, motive c) amount department managerApproval all any
    (fun _ h => nomatch h)
    (fun _ _ hc hcs => List.forall_mem_cons.2 ⟨hc, hcs⟩) c

/-! ### Equality -/

mutual

/-- Whether two conditions are the same tree. -/
def same : Condition → Condition → Bool
  | .amount c t, .amount c' t' => c == c' && t == t'
  | .department c d, .department c' d' => c == c' && d == d'
  | .managerApproval b, .managerApproval b' => b == b'
  | .all parts, .all parts' | .any parts, .any parts' => sameList parts parts'
  | _, _ => false

/-- Whether two lists hold the same conditions. -/
def sameList : List Condition → List Condition → Bool
  | [], [] => true
  | c :: cs, c' :: cs' => same c c' && sameList cs cs'
  | _, _ => false

end

theorem sameList_iff {cs : List Condition} (h : ∀ c ∈ cs, ∀ c', same c c' = true ↔ c = c')
    (cs' : List Condition) : sameList cs cs' = true ↔ cs = cs' := by
  induction cs generalizing cs' with
  | nil => cases cs' <;> simp [sameList]
  | cons c cs ih =>
    cases cs' with
    | nil => simp [sameList]
    | cons c' cs' =>
      rw [sameList, Bool.and_eq_true, h c (by simp), ih fun d hd => h d (by simp [hd]),
        List.cons.injEq]

theorem same_iff (c c' : Condition) : same c c' = true ↔ c = c' := by
  induction c generalizing c' with
  | amount => cases c' <;> simp [same]
  | department => cases c' <;> simp [same]
  | managerApproval => cases c' <;> simp [same]
  | all parts ih => cases c' <;> simp [same, sameList_iff ih]
  | any parts ih => cases c' <;> simp [same, sameList_iff ih]

instance : DecidableEq Condition := fun c c' => decidable_of_iff (same c c' = true) (same_iff c c')

/-! ### Branches as lists -/

theorem allHold_eq_all (r : ApprovalRequest) (cs : List Condition) :
    allHold r cs = cs.all (holds r) := by
  induction cs with
  | nil => rfl
  | cons c cs ih => rw [allHold, ih, List.all_cons]

theorem anyHolds_eq_any (r : ApprovalRequest) (cs : List Condition) :
    anyHolds r cs = cs.any (holds r) := by
  induction cs with
  | nil => rfl
  | cons c cs ih => rw [anyHolds, ih, List.any_cons]

/-- A branch of which every part has to hold fails by one part. -/
theorem holds_all_eq_false_iff {r : ApprovalRequest} {parts : List Condition} :
    (all parts).holds r = false ↔ ∃ part ∈ parts, part.holds r = false := by
  rw [holds, allHold_eq_all, List.all_eq_false]
  simp only [Bool.not_eq_true]

/-- A branch of which some part has to hold does so by one part. -/
theorem holds_any_eq_true_iff {r : ApprovalRequest} {parts : List Condition} :
    (any parts).holds r = true ↔ ∃ part ∈ parts, part.holds r = true := by
  rw [holds, anyHolds_eq_any, List.any_eq_true]

end Condition

end InvoiceApproval
