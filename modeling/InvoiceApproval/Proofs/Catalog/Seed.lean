/-
What the built-in catalog decides.

Its four conditions are the four ways in which a request can lie above the threshold or
not, and need a manager or not, so exactly one rule matches any request
(`matching_rules`).  That the amounts are split without a gap rests on comparing numbers:
an amount of a thousand is at the threshold in whatever scale it is written.

Above the threshold one approver is named, for all departments alike.  Below it the rule
names at most one approver for each department and the first of them stands in for the
departments that have none, so again exactly one is left (`Routing.narrow_eq_singleton`).
-/
import InvoiceApproval.Catalog
import InvoiceApproval.Proofs.Decimal.Order
import InvoiceApproval.Proofs.Selection

namespace InvoiceApproval

namespace Seed

/-! ### The rule that matches -/

theorem value_threshold : threshold.value = 1000 := by decide +kernel

theorem holds_condition (comparison : Comparison) (wanted : Bool) (r : ApprovalRequest) :
    (condition comparison wanted).holds r
      = (comparison.holds (Ord.compare r.amount.value 1000)
          && r.requiresManagerApproval == wanted) := by
  simp only [condition, Condition.holds, Condition.allHold, Decimal.compare_eq, value_threshold,
    Bool.and_true]

/-- The rule for requests above the threshold or not, with a manager or without. -/
def ruleFor (isHigh managerApproval : Bool) : Rule :=
  match isHigh, managerApproval with
  | true, true => rules[0]
  | true, false => rules[1]
  | false, true => rules[2]
  | false, false => rules[3]

theorem ruleFor_mem (isHigh managerApproval : Bool) : ruleFor isHigh managerApproval ∈ rules := by
  cases isHigh <;> cases managerApproval <;> exact List.getElem_mem _

/-- **Exactly one of the built-in rules matches a request.** -/
theorem matching_rules (r : ApprovalRequest) :
    Rule.matching rules r
      = [ruleFor (decide (1000 < r.amount.value)) r.requiresManagerApproval] := by
  have hfilter : rules.filter (·.condition.holds r)
      = [ruleFor (decide (1000 < r.amount.value)) r.requiresManagerApproval] := by
    by_cases hhigh : 1000 < r.amount.value
    · have hcompare := compare_gt_iff_gt.2 hhigh
      cases hmanager : r.requiresManagerApproval <;>
        simp [rules, ruleFor, holds_condition, hcompare, hmanager, hhigh, Comparison.holds]
    · have hcompare : Ord.compare r.amount.value 1000 ≠ .gt := mt compare_gt_iff_gt.1 hhigh
      cases hmanager : r.requiresManagerApproval <;>
        simp [rules, ruleFor, holds_condition, hcompare, hmanager, hhigh, Comparison.holds]
  unfold Rule.matching
  rw [hfilter, List.mergeSort_singleton]

/-! ### The approver who is selected -/

theorem chosen_high (managerApproval : Bool) :
    ∃ a, Catalog.seed.directory.find? (if managerApproval then "cfo" else "vp-finance") = some a ∧
      ∀ r, Catalog.seed.directory.chosen r [ruleFor true managerApproval] = [a] := by
  cases managerApproval with
  | true => exact ⟨_, rfl, fun _ => rfl⟩
  | false => exact ⟨_, rfl, fun _ => rfl⟩

/-- The approvers named up to the threshold. -/
def candidates (managerApproval : Bool) : List Approver :=
  Catalog.seed.directory.resolve (ruleFor false managerApproval).approverIds

theorem chosen_low (managerApproval : Bool) (r : ApprovalRequest) :
    ∃ a, Catalog.seed.directory.chosen r [ruleFor false managerApproval] = [a] ∧
      a.isManager = managerApproval ∧ Routing.Seated r.department (candidates managerApproval) a := by
  have hne : candidates managerApproval ≠ [] := by cases managerApproval <;> decide
  have hrole : ∀ a ∈ candidates managerApproval, a.isManager = managerApproval := by
    cases managerApproval <;> decide
  have hapart : (candidates managerApproval).Pairwise fun a b => a.department ≠ b.department := by
    cases managerApproval <;> decide
  obtain ⟨a, ha, hseated⟩ := Routing.narrow_eq_singleton hne hrole hapart r.department
  refine ⟨a, ?_, hrole a hseated.mem, hseated⟩
  cases managerApproval <;> exact ha

end Seed

/-- What the built-in catalog makes of a request: the rule, and the approver. -/
structure Seed.Decides (r : ApprovalRequest) (rule : Rule) (a : Approver) : Prop where
  /-- Everybody on the rule is in the directory. -/
  resolved : (Catalog.seed.directory.resolve rule.approverIds).map (·.id) = rule.approverIds
  /-- Above the threshold one approver signs off for every department. -/
  high : 1000 < r.amount.value →
    rule.id = (if r.requiresManagerApproval then "rule-1" else "rule-2") ∧
      Catalog.seed.directory.find? (if r.requiresManagerApproval then "cfo" else "vp-finance")
        = some a
  /-- Up to the threshold the department's own candidate does, or else the first on the rule. -/
  low : r.amount.value ≤ 1000 →
    rule.id = (if r.requiresManagerApproval then "rule-3" else "rule-4") ∧
      a.isManager = r.requiresManagerApproval ∧
      Routing.Seated r.department (Catalog.seed.directory.resolve rule.approverIds) a

theorem Seed.resolve_ruleFor (isHigh managerApproval : Bool) :
    (Catalog.seed.directory.resolve (ruleFor isHigh managerApproval).approverIds).map (·.id)
      = (ruleFor isHigh managerApproval).approverIds := by
  cases isHigh <;> cases managerApproval <;> decide

/-- **The built-in catalog sends every request to exactly one approver, under exactly one rule.** -/
theorem Catalog.seed_decides (notifier : Notifier) (r : ApprovalRequest) (j : Journal) :
    ∃ rule ∈ Seed.rules, ∃ a,
      ((Catalog.seed.engine notifier).run r j).1
        = .ok ⟨r, [a], [Notice.confirmation a], [rule.name]⟩ ∧
      Seed.Decides r rule a := by
  have hrun := (Engine.run_available seed.configuration seed.directory notifier r j).1
  have hmatching : Rule.matching seed.configuration.rules r = _ := Seed.matching_rules r
  rw [hmatching] at hrun
  by_cases hhigh : 1000 < r.amount.value
  · rw [decide_eq_true hhigh] at hrun
    obtain ⟨a, hfind, hchosen⟩ := Seed.chosen_high r.requiresManagerApproval
    rw [hchosen r] at hrun
    refine ⟨_, Seed.ruleFor_mem true r.requiresManagerApproval, a, hrun,
      Seed.resolve_ruleFor _ _, ?_, ?_⟩
    · intro _
      exact ⟨by cases r.requiresManagerApproval <;> rfl, hfind⟩
    · intro hlow
      exact absurd hlow (not_le.2 hhigh)
  · rw [decide_eq_false hhigh] at hrun
    obtain ⟨a, hchosen, hrole, hseated⟩ := Seed.chosen_low r.requiresManagerApproval r
    rw [hchosen] at hrun
    refine ⟨_, Seed.ruleFor_mem false r.requiresManagerApproval, a, hrun,
      Seed.resolve_ruleFor _ _, ?_, ?_⟩
    · intro h
      exact absurd h hhigh
    · intro _
      exact ⟨by cases r.requiresManagerApproval <;> rfl, hrole, hseated⟩

end InvoiceApproval
