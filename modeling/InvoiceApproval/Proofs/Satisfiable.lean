/-
Leaves that can hold.

A leaf is worth writing if some request satisfies it.  Departments come in any combination with
anything else, and so does the wish for a manager, so of those leaves only the ones that order
departments are lost.  Amounts run from zero to the largest decimal, and a comparison with a
threshold can hold if the threshold leaves room on the side that the comparison asks for
(`Comparison.InReach`).

The search for leaves that can never hold is a search for orders of departments.  What it finds
can indeed never hold, and where it finds nothing the leaves that do not look at the amount can
all hold.  Thresholds it passes over: a leaf that asks for an amount below zero counts as
sound, and a strict reader accepts it (`leaves_satisfiable_iff`).
-/
import InvoiceApproval.Proofs.Catalog.Faults
import InvoiceApproval.Proofs.Decimal.Order

namespace InvoiceApproval

/-! ### The range of amounts -/

namespace Decimal

/-- Zero. -/
def zero : Decimal := .ofNat 0 zero_lt_bound

/-- The largest decimal. -/
def largest : Decimal := .ofNat (bound - 1)

theorem value_zero : zero.value = 0 := by decide +kernel

theorem value_largest_pos : 0 < largest.value := by decide +kernel

theorem value_le_largest (d : Decimal) : d.value ≤ largest.value := by
  have hcoefficient : d.coefficient ≤ largest.coefficient := by
    have hlt := d.magnitude_lt
    have hlargest : largest.coefficient = (bound : Int) - 1 := by decide +kernel
    rw [hlargest, coefficient]
    split <;> omega
  have hpos : 0 < largest.coefficient := by decide +kernel
  have hpower : (1 : Int) ≤ Text.tenTo d.scale := by
    rw [tenTo_eq]
    exact_mod_cast Nat.one_le_pow _ _ (by decide)
  rw [← not_lt, value_lt_iff, not_lt]
  calc d.coefficient * Text.tenTo 0 = d.coefficient := by rw [tenTo_eq]; simp
    _ ≤ largest.coefficient := hcoefficient
    _ ≤ largest.coefficient * Text.tenTo d.scale := le_mul_of_one_le_right hpos.le hpower

end Decimal

/-! ### Thresholds in reach -/

namespace Comparison

/-- What a comparison says of two numbers. -/
def Relates : Comparison → Rat → Rat → Prop
  | equals, x, y => x = y
  | notEquals, x, y => x ≠ y
  | greaterThan, x, y => y < x
  | greaterThanOrEquals, x, y => y ≤ x
  | lessThan, x, y => x < y
  | lessThanOrEquals, x, y => x ≤ y

theorem holds_compare_iff (comparison : Comparison) (x y : Rat) :
    comparison.holds (Ord.compare x y) = true ↔ comparison.Relates x y := by
  cases comparison <;>
    simp only [holds, Relates, beq_iff_eq, bne_iff_ne, compare_eq_iff_eq, compare_gt_iff_gt,
      compare_lt_iff_lt, ne_eq, not_lt]

/-- A threshold leaves room for an amount on the side that a comparison asks for. -/
def InReach : Comparison → Decimal → Prop
  | equals, threshold => 0 ≤ threshold.value
  | notEquals, _ => True
  | greaterThan, threshold => threshold.value < Decimal.largest.value
  | greaterThanOrEquals, _ => True
  | lessThan, threshold => 0 < threshold.value
  | lessThanOrEquals, threshold => 0 ≤ threshold.value

/-- **A threshold is in reach exactly if some decimal that is not negative compares to it like
that.** -/
theorem inReach_iff {comparison : Comparison} {threshold : Decimal} :
    comparison.InReach threshold
      ↔ ∃ d : Decimal, 0 ≤ d.value ∧ comparison.Relates d.value threshold.value := by
  have hzero := Decimal.value_zero
  have hlargest := Decimal.value_largest_pos
  cases comparison with
  | equals =>
      constructor
      · intro h
        exact ⟨threshold, h, rfl⟩
      · rintro ⟨d, hd, heq⟩
        exact le_of_le_of_eq hd heq
  | notEquals =>
      refine iff_of_true trivial ?_
      by_cases h : threshold.value = 0
      · exact ⟨Decimal.largest, hlargest.le, fun heq => hlargest.ne' (heq.trans h)⟩
      · exact ⟨Decimal.zero, hzero.ge, fun heq => h (heq.symm.trans hzero)⟩
  | greaterThan =>
      constructor
      · intro h
        exact ⟨Decimal.largest, hlargest.le, h⟩
      · rintro ⟨d, -, hlt⟩
        exact lt_of_lt_of_le hlt d.value_le_largest
  | greaterThanOrEquals =>
      exact iff_of_true trivial ⟨Decimal.largest, hlargest.le, threshold.value_le_largest⟩
  | lessThan =>
      constructor
      · intro h
        exact ⟨Decimal.zero, hzero.ge, lt_of_eq_of_lt hzero h⟩
      · rintro ⟨d, hd, hlt⟩
        exact lt_of_le_of_lt hd hlt
  | lessThanOrEquals =>
      constructor
      · intro h
        exact ⟨Decimal.zero, hzero.ge, le_of_eq_of_le hzero h⟩
      · rintro ⟨d, hd, hle⟩
        exact le_trans hd hle

end Comparison

/-! ### Leaves that some request satisfies -/

namespace Condition

/-- Some request satisfies a condition. -/
def Satisfiable (c : Condition) : Prop := ∃ r : ApprovalRequest, c.holds r = true

/-- If a leaf looks at the amount, its threshold is in reach. -/
def InReach : Condition → Prop
  | .amount comparison threshold => comparison.InReach threshold
  | _ => True

/-- The least request of a department, with or without a manager. -/
def leastRequest (department : Department) (requiresManagerApproval : Bool) : ApprovalRequest :=
  ⟨.zero, department, requiresManagerApproval, rfl⟩

theorem satisfiable_amount_iff {comparison : Comparison} {threshold : Decimal} :
    (amount comparison threshold).Satisfiable ↔ comparison.InReach threshold := by
  rw [Comparison.inReach_iff]
  simp only [Satisfiable, holds, Decimal.compare_eq, Comparison.holds_compare_iff]
  constructor
  · rintro ⟨r, hr⟩
    have hnonneg : ¬ r.amount.value < 0 := by
      rw [← Decimal.isNegative_iff, r.amount_nonneg]
      exact Bool.false_ne_true
    exact ⟨r.amount, not_lt.1 hnonneg, hr⟩
  · rintro ⟨d, hd, hrelates⟩
    have hnonneg : d.isNegative = false := by
      rw [← Bool.not_eq_true, Decimal.isNegative_iff]
      exact not_lt.2 hd
    exact ⟨⟨d, .sales, false, hnonneg⟩, hrelates⟩

theorem satisfiable_department_iff {comparison : Comparison} {expected : Department} :
    (department comparison expected).Satisfiable ↔ comparison ∉ Comparison.orderings := by
  constructor
  · rintro ⟨r, hr⟩ hordering
    rw [holds, departmentHolds_of_mem_orderings hordering] at hr
    cases hr
  · intro hequality
    cases comparison with
    | equals => exact ⟨leastRequest expected false, by simp [holds, departmentHolds, leastRequest]⟩
    | notEquals =>
        by_cases h : expected = .sales
        · exact ⟨leastRequest .hr false, by simp [holds, departmentHolds, leastRequest, h]⟩
        · refine ⟨leastRequest .sales false, ?_⟩
          simpa [holds, departmentHolds, leastRequest] using Ne.symm h
    | _ => exact absurd (by decide) hequality

theorem satisfiable_managerApproval (wanted : Bool) : (managerApproval wanted).Satisfiable :=
  ⟨leastRequest .sales wanted, by simp [holds, leastRequest]⟩

/-- A leaf compares amounts or departments, or asks for a manager. -/
theorem leaf_cases {c leaf : Condition} (h : leaf ∈ c.leaves) :
    (∃ comparison threshold, leaf = .amount comparison threshold) ∨
    (∃ comparison expected, leaf = .department comparison expected) ∨
    ∃ wanted, leaf = .managerApproval wanted := by
  induction c with
  | amount comparison threshold => exact .inl ⟨_, _, List.mem_singleton.1 h⟩
  | department comparison expected => exact .inr (.inl ⟨_, _, List.mem_singleton.1 h⟩)
  | managerApproval wanted => exact .inr (.inr ⟨_, List.mem_singleton.1 h⟩)
  | all parts ih =>
      rw [leaves, leavesIn_eq_flatMap] at h
      obtain ⟨part, hpart, hleaf⟩ := List.mem_flatMap.1 h
      exact ih part hpart hleaf
  | any parts ih =>
      rw [leaves, leavesIn_eq_flatMap] at h
      obtain ⟨part, hpart, hleaf⟩ := List.mem_flatMap.1 h
      exact ih part hpart hleaf

/-- **A leaf can hold exactly if there is nothing to complain about and its threshold is in
reach.** -/
theorem satisfiable_leaf_iff {c leaf : Condition} (h : leaf ∈ c.leaves) :
    leaf.Satisfiable ↔ leaf.complaint? = none ∧ leaf.InReach := by
  obtain ⟨comparison, threshold, rfl⟩ | ⟨comparison, expected, rfl⟩ | ⟨wanted, rfl⟩ := leaf_cases h
  · exact satisfiable_amount_iff.trans (and_iff_right rfl).symm
  · refine satisfiable_department_iff.trans (Iff.trans ?_ (and_iff_left trivial).symm)
    simp [complaint?]
  · exact iff_of_true (satisfiable_managerApproval wanted) ⟨rfl, trivial⟩

/-- Only what looks at the amount can be out of reach. -/
theorem inReach_of_complaint? {leaf : Condition} {complaint : UnorderedComparison}
    (h : leaf.complaint? = some complaint) : leaf.InReach := by
  obtain ⟨-, expected, rfl⟩ := complaint?_eq_some_iff.1 h
  trivial

theorem complaint?_eq_none_iff {c leaf : Condition} (h : leaf ∈ c.leaves) :
    leaf.complaint? = none ↔ (leaf.InReach → leaf.Satisfiable) := by
  rw [satisfiable_leaf_iff h]
  constructor
  · intro hnone hreach
    exact ⟨hnone, hreach⟩
  · intro hreach
    cases hcomplaint : leaf.complaint? with
    | none => rfl
    | some complaint =>
        exact hcomplaint.symm.trans (hreach (inReach_of_complaint? hcomplaint)).1

/-- **The search finds nothing exactly if every leaf can hold whose threshold is in reach.** -/
theorem firstUnordered_eq_none_iff_of_inReach {c : Condition} :
    c.firstUnordered = none ↔ ∀ leaf ∈ c.leaves, leaf.InReach → leaf.Satisfiable := by
  rw [firstUnordered_eq_none_iff]
  exact forall₂_congr fun leaf hleaf => complaint?_eq_none_iff hleaf

theorem forall_satisfiable_iff {c : Condition} : (∀ leaf ∈ c.leaves, leaf.Satisfiable)
    ↔ c.firstUnordered = none ∧ ∀ leaf ∈ c.leaves, leaf.InReach := by
  rw [firstUnordered_eq_none_iff, ← forall₂_and]
  exact forall₂_congr fun leaf hleaf => satisfiable_leaf_iff hleaf

/-- The leaf that the search complains of can never hold. -/
theorem exists_of_firstUnordered {c : Condition} {complaint : UnorderedComparison}
    (h : c.firstUnordered = some complaint) : ∃ expected,
      .department complaint.comparison expected ∈ c.leaves ∧
        ¬ (department complaint.comparison expected).Satisfiable := by
  rw [firstUnordered_eq_head?] at h
  obtain ⟨leaf, hleaf, hcomplaint⟩ := List.mem_filterMap.1 (List.mem_of_head? h)
  obtain ⟨hordering, expected, rfl⟩ := complaint?_eq_some_iff.1 hcomplaint
  exact ⟨expected, hleaf, fun hsatisfiable => satisfiable_department_iff.1 hsatisfiable hordering⟩

/-- A strict reader accepts no rule in which the search finds something. -/
theorem firstUnordered_of_strict {raw origin : String} {j left : Journal} {catalog : Catalog}
    (h : (Catalog.parse raw origin true).run j = (.ok catalog, left)) {rule : Rule}
    (hrule : rule ∈ catalog.configuration.rules) : rule.condition.firstUnordered = none := by
  obtain ⟨-, hwell, -⟩ := Catalog.parse_run_eq_ok_iff.1 h
  exact firstUnordered_eq_none_iff_not_ordersDepartments.2 (hwell.rules_satisfiable rfl rule hrule)

/--
**What the search finds can never hold, and what it misses are thresholds out of reach.**

Where it finds nothing, every leaf can hold whose threshold is in reach, so all the leaves can
hold exactly if in addition every threshold is in reach.  The verdict of the search is right
about a condition unless it finds nothing while a threshold is out of reach.  The same separates
the catalogs that a strict reader accepts from those in which every comparison can hold.
-/
theorem leaves_satisfiable_iff (c : Condition) :
    (∀ complaint, c.firstUnordered = some complaint → ∃ expected,
      .department complaint.comparison expected ∈ c.leaves ∧
        ¬ (department complaint.comparison expected).Satisfiable) ∧
    (c.firstUnordered = none ↔ ∀ leaf ∈ c.leaves, leaf.InReach → leaf.Satisfiable) ∧
    ((∀ leaf ∈ c.leaves, leaf.Satisfiable)
      ↔ c.firstUnordered = none ∧ ∀ leaf ∈ c.leaves, leaf.InReach) ∧
    ((c.firstUnordered = none ↔ ∀ leaf ∈ c.leaves, leaf.Satisfiable)
      ↔ (c.firstUnordered = none → ∀ leaf ∈ c.leaves, leaf.InReach)) ∧
    ∀ raw origin j left catalog, (Catalog.parse raw origin true).run j = (.ok catalog, left) →
      ∀ rule ∈ catalog.configuration.rules,
        (∀ leaf ∈ rule.condition.leaves, leaf.Satisfiable)
          ↔ ∀ leaf ∈ rule.condition.leaves, leaf.InReach := by
  refine ⟨fun _ h => exists_of_firstUnordered h, firstUnordered_eq_none_iff_of_inReach,
    forall_satisfiable_iff, ?_, ?_⟩
  · rw [forall_satisfiable_iff]
    constructor
    · intro h hnone
      exact (h.1 hnone).2
    · intro h
      exact ⟨fun hnone => ⟨hnone, h hnone⟩, fun hboth => hboth.1⟩
  · intro raw origin j left catalog hparse rule hrule
    rw [forall_satisfiable_iff, and_iff_right (firstUnordered_of_strict hparse hrule)]

/-- A catalog of one rule, which compares the amount. -/
def catalogOfAmount (comparison : Comparison) (threshold : Decimal) : Catalog :=
  ⟨⟨Seed.configurationId, Seed.configurationName,
    [⟨"all", "All", "", .amount comparison threshold, ["cfo"], 0, .unfiltered⟩]⟩, Seed.approvers⟩

/-- That catalog as a text. -/
def textOfAmount (comparison threshold : String) : String :=
  "[[rules]]\nid = \"all\"\nname = \"All\"\napprover_ids = [\"cfo\"]\n"
    ++ "condition = \x7b type = \"amount\", operator = \"" ++ comparison
    ++ "\", threshold = \"" ++ threshold ++ "\" \x7d\n"

theorem leaves_satisfiable_iff_upTo :
    (Catalog.parse (textOfAmount "less_than_or_equals" "0") "inline" true).run Journal.empty
        = (.ok (catalogOfAmount .lessThanOrEquals .zero), Journal.empty) ∧
      (∀ leaf ∈ (amount .lessThanOrEquals .zero).leaves, leaf.InReach) ∧
      (∀ leaf ∈ (amount .lessThanOrEquals .zero).leaves, leaf.Satisfiable) ∧
      (any [.managerApproval true, .department .lessThan .hr]).firstUnordered = some ⟨.lessThan⟩ ∧
      ∃ expected, .department .lessThan expected
        ∈ (any [.managerApproval true, .department .lessThan .hr]).leaves ∧
          ¬ (department .lessThan expected).Satisfiable := by
  have hparse : (Catalog.parse (textOfAmount "less_than_or_equals" "0") "inline" true).run
      Journal.empty = (.ok (catalogOfAmount .lessThanOrEquals .zero), Journal.empty) :=
    Catalog.parse_eq_ok_iff.2 ⟨by decide +kernel, rfl⟩
  have hreach : ∀ leaf ∈ (amount .lessThanOrEquals .zero).leaves, leaf.InReach := by
    intro leaf hleaf
    rw [List.mem_singleton.1 hleaf]
    exact Decimal.value_zero.ge
  obtain ⟨hfinds, -⟩ :=
    leaves_satisfiable_iff (any [.managerApproval true, .department .lessThan .hr])
  obtain ⟨-, -, -, -, hstrict⟩ := leaves_satisfiable_iff (amount .lessThanOrEquals .zero)
  exact ⟨hparse, hreach, (hstrict _ _ _ _ _ hparse _ (List.mem_singleton_self _)).2 hreach, rfl,
    hfinds _ rfl⟩

/-- A comparison that asks for an amount below zero goes through, also with a strict reader. -/
theorem below_zero_accepted :
    (amount .lessThan .zero).firstUnordered = none ∧
      amount .lessThan .zero ∈ (amount .lessThan .zero).leaves ∧
      (∀ r, (amount .lessThan .zero).holds r = false) ∧
      ¬ ((amount .lessThan .zero).firstUnordered = none
        ↔ ∀ leaf ∈ (amount .lessThan .zero).leaves, leaf.Satisfiable) ∧
      (Catalog.parse (textOfAmount "less_than" "0") "inline" true).run Journal.empty
        = (.ok (catalogOfAmount .lessThan .zero), Journal.empty) := by
  have hmem : amount .lessThan .zero ∈ (amount .lessThan .zero).leaves :=
    List.mem_singleton_self _
  have hnever : ¬ (amount .lessThan .zero).Satisfiable := by
    rw [satisfiable_amount_iff]
    exact Decimal.value_zero.not_gt
  refine ⟨rfl, hmem, ?_, ?_, Catalog.parse_eq_ok_iff.2 ⟨by decide +kernel, rfl⟩⟩
  · intro r
    exact Bool.eq_false_iff.2 fun hr => hnever ⟨r, hr⟩
  · intro h
    exact hnever (h.1 rfl _ hmem)

end Condition

end InvoiceApproval
