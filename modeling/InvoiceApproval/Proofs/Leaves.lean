/-
The leaves of a condition.

What is said of a condition as it is written, and not as it is evaluated, is said of its
leaves.  `leaves` lists them from left to right, however deep they stand and whether or not
an evaluation would ever come to them.

The search for a leaf that orders departments walks through the tree.  It meets the leaves
in the order of this list and stops at the first one that it looks for
(`firstUnordered_eq_head?`), so it finds nothing exactly if no leaf orders departments.

Leaves can be replaced where they stand (`mapLeaves`), by other leaves or by whole conditions.
A replacement that holds of the same requests as its leaf makes no difference to the whole.
-/
import InvoiceApproval.Condition

namespace InvoiceApproval

/-- The comparisons that ask for an order. -/
def Comparison.orderings : List Comparison :=
  [greaterThan, greaterThanOrEquals, lessThan, lessThanOrEquals]

namespace Condition

mutual

/-- The leaves of a condition, from left to right. -/
def leaves : Condition → List Condition
  | .amount comparison threshold => [.amount comparison threshold]
  | .department comparison expected => [.department comparison expected]
  | .managerApproval wanted => [.managerApproval wanted]
  | .all parts | .any parts => leavesIn parts

/-- The leaves of a list of conditions. -/
def leavesIn : List Condition → List Condition
  | [] => []
  | c :: cs => leaves c ++ leavesIn cs

end

theorem leavesIn_eq_flatMap (cs : List Condition) : leavesIn cs = cs.flatMap leaves := by
  induction cs with
  | nil => rfl
  | cons c cs ih => rw [leavesIn, ih, List.flatMap_cons]

/-- What is said of the leaves of a branch is said of the leaves of each of its parts. -/
theorem forall_mem_leavesIn {p : Condition → Prop} {parts : List Condition} :
    (∀ leaf ∈ leavesIn parts, p leaf) ↔ ∀ part ∈ parts, ∀ leaf ∈ part.leaves, p leaf := by
  rw [leavesIn_eq_flatMap]
  exact List.forall_mem_flatMap

/-! ### Other leaves -/

mutual

/-- A condition with each of its leaves replaced. -/
def mapLeaves (f : Condition → Condition) : Condition → Condition
  | .amount comparison threshold => f (.amount comparison threshold)
  | .department comparison expected => f (.department comparison expected)
  | .managerApproval wanted => f (.managerApproval wanted)
  | .all parts => .all (mapLeavesIn f parts)
  | .any parts => .any (mapLeavesIn f parts)

/-- A list of conditions with each of their leaves replaced. -/
def mapLeavesIn (f : Condition → Condition) : List Condition → List Condition
  | [] => []
  | c :: cs => mapLeaves f c :: mapLeavesIn f cs

end

theorem mapLeavesIn_eq_map (f : Condition → Condition) (cs : List Condition) :
    mapLeavesIn f cs = cs.map (mapLeaves f) := by
  induction cs with
  | nil => rfl
  | cons c cs ih => rw [mapLeavesIn, ih, List.map_cons]

theorem mapLeavesIn_eq_self_iff {f : Condition → Condition} {cs : List Condition} :
    mapLeavesIn f cs = cs ↔ ∀ c ∈ cs, c.mapLeaves f = c := by
  rw [mapLeavesIn_eq_map]
  simpa using List.map_eq_map_iff (f := mapLeaves f) (l := cs) (g := id)

/-- A condition stays as it is exactly if each of its leaves does. -/
theorem mapLeaves_eq_self_iff {f : Condition → Condition} {c : Condition} :
    c.mapLeaves f = c ↔ ∀ leaf ∈ c.leaves, f leaf = leaf := by
  induction c with
  | amount comparison threshold => rw [mapLeaves, leaves, List.forall_mem_singleton]
  | department comparison expected => rw [mapLeaves, leaves, List.forall_mem_singleton]
  | managerApproval wanted => rw [mapLeaves, leaves, List.forall_mem_singleton]
  | all parts ih =>
      rw [mapLeaves, leaves, forall_mem_leavesIn, all.injEq, mapLeavesIn_eq_self_iff]
      exact forall₂_congr ih
  | any parts ih =>
      rw [mapLeaves, leaves, forall_mem_leavesIn, any.injEq, mapLeavesIn_eq_self_iff]
      exact forall₂_congr ih

/-! ### Complaints -/

/-- An order of departments holds of nothing. -/
theorem departmentHolds_of_mem_orderings {comparison : Comparison}
    (h : comparison ∈ Comparison.orderings) (actual expected : Department) :
    departmentHolds comparison actual expected = false := by
  cases comparison with
  | equals | notEquals => exact absurd h (by decide)
  | _ => rfl

/-- A leaf of a condition compares departments by an order. -/
def OrdersDepartments (c : Condition) : Prop :=
  ∃ comparison ∈ Comparison.orderings, ∃ expected, .department comparison expected ∈ c.leaves

/-- The complaint about a leaf, if it orders departments. -/
def complaint? : Condition → Option UnorderedComparison
  | .department comparison _ =>
    if comparison ∈ Comparison.orderings then some ⟨comparison⟩ else none
  | _ => none

/-- The complaints about the leaves of a condition, from left to right. -/
def complaints (c : Condition) : List UnorderedComparison := c.leaves.filterMap complaint?

theorem complaint?_eq_some_iff {c : Condition} {u : UnorderedComparison} :
    c.complaint? = some u
      ↔ u.comparison ∈ Comparison.orderings ∧ ∃ expected, c = .department u.comparison expected := by
  cases c with
  | department comparison expected =>
      by_cases h : comparison ∈ Comparison.orderings
      · simp only [complaint?, if_pos h, Option.some.injEq, department.injEq]
        constructor
        · rintro rfl
          exact ⟨h, expected, rfl, rfl⟩
        · rintro ⟨-, -, rfl, -⟩
          rfl
      · simp only [complaint?, if_neg h, department.injEq]
        constructor
        · intro hnone
          cases hnone
        · rintro ⟨hu, -, rfl, -⟩
          exact absurd hu h
  | _ => simp [complaint?]

/-- There is nothing to complain about exactly if no leaf orders departments. -/
theorem complaints_eq_nil_iff {c : Condition} : c.complaints = [] ↔ ¬ c.OrdersDepartments := by
  unfold complaints OrdersDepartments
  rw [List.filterMap_eq_nil_iff]
  constructor
  · rintro h ⟨comparison, hordering, expected, hleaf⟩
    have := h _ hleaf
    rw [complaint?, if_pos hordering] at this
    cases this
  · intro h leaf hleaf
    cases hcomplaint : leaf.complaint? with
    | none => rfl
    | some u =>
        obtain ⟨hordering, expected, rfl⟩ := complaint?_eq_some_iff.1 hcomplaint
        exact absurd ⟨_, hordering, expected, hleaf⟩ h

theorem firstUnorderedIn_eq_head? {cs : List Condition}
    (h : ∀ c ∈ cs, c.firstUnordered = c.complaints.head?) :
    firstUnorderedIn cs = (cs.flatMap complaints).head? := by
  induction cs with
  | nil => rfl
  | cons c cs ih =>
      rw [firstUnorderedIn, h c (by simp), ih fun d hd => h d (by simp [hd]), List.flatMap_cons,
        List.head?_append]

/-- The complaints about a branch are those about its parts, one after the other. -/
theorem filterMap_leavesIn (parts : List Condition) :
    (leavesIn parts).filterMap complaint? = parts.flatMap complaints := by
  rw [leavesIn_eq_flatMap, List.filterMap_flatMap]
  rfl

/-- **The search finds the first complaint, from left to right.** -/
theorem firstUnordered_eq_head? (c : Condition) : c.firstUnordered = c.complaints.head? := by
  induction c with
  | amount comparison threshold => rfl
  | department comparison expected => cases comparison <;> rfl
  | managerApproval wanted => rfl
  | all parts ih =>
      rw [firstUnordered, complaints, leaves, filterMap_leavesIn, firstUnorderedIn_eq_head? ih]
  | any parts ih =>
      rw [firstUnordered, complaints, leaves, filterMap_leavesIn, firstUnorderedIn_eq_head? ih]

theorem firstUnordered_eq_none_iff {c : Condition} :
    c.firstUnordered = none ↔ ∀ leaf ∈ c.leaves, leaf.complaint? = none := by
  rw [firstUnordered_eq_head?, List.head?_eq_none_iff, complaints, List.filterMap_eq_nil_iff]

theorem firstUnordered_eq_none_iff_not_ordersDepartments {c : Condition} :
    c.firstUnordered = none ↔ ¬ c.OrdersDepartments := by
  rw [firstUnordered_eq_head?, List.head?_eq_none_iff, complaints_eq_nil_iff]

end Condition

end InvoiceApproval
