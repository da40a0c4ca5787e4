/-
What the amount decides.

A condition looks at the amount only to compare it with thresholds, and a comparison
has three outcomes.  So two amounts that stand alike to every threshold of a
configuration cannot be told apart by any of its conditions (`holds_of_sameSide`): they
match the same rules, in the same order, and go to the same approvers.

How an amount stands to a threshold is said of the numbers (`SameSide`).  Decimals are
compared exactly (`Decimal.compare_eq`), so the scale in which an amount is written,
and how far it lies from the scale of the threshold, make no difference.
-/
import InvoiceApproval.Catalog.Seed
import InvoiceApproval.Proofs.Decimal.Order
import InvoiceApproval.Proofs.Selection

namespace InvoiceApproval

/-! ### Thresholds -/

namespace Condition

mutual

/-- The thresholds in a condition, however deep they stand. -/
def thresholds : Condition → List Decimal
  | .amount _ threshold => [threshold]
  | .department .. | .managerApproval _ => []
  | .all parts | .any parts => thresholdsIn parts

/-- The thresholds in a list of conditions. -/
def thresholdsIn : List Condition → List Decimal
  | [] => []
  | c :: cs => thresholds c ++ thresholdsIn cs

end

theorem thresholdsIn_eq_flatMap (cs : List Condition) :
    thresholdsIn cs = cs.flatMap thresholds := by
  induction cs with
  | nil => rfl
  | cons c cs ih => rw [thresholdsIn, ih, List.flatMap_cons]

end Condition

/-- The thresholds in the rules of a configuration. -/
def Configuration.thresholds (c : Configuration) : List Decimal :=
  c.rules.flatMap (·.condition.thresholds)

/-- Two numbers stand alike to each of these thresholds. -/
def SameSide (thresholds : List Decimal) (x y : Rat) : Prop :=
  ∀ t ∈ thresholds, Ord.compare x t.value = Ord.compare y t.value

theorem SameSide.of_mem {α : Type} {f : α → List Decimal} {as : List α} {x y : Rat}
    (h : SameSide (as.flatMap f) x y) {a : α} (ha : a ∈ as) : SameSide (f a) x y := by
  intro t ht
  exact h t (List.mem_flatMap.2 ⟨a, ha, ht⟩)

/-! ### Conditions on the same side -/

theorem Condition.allHold_congr {r s : ApprovalRequest} {cs : List Condition}
    (h : ∀ c ∈ cs, c.holds r = c.holds s) : allHold r cs = allHold s cs := by
  induction cs with
  | nil => rfl
  | cons c cs ih =>
      rw [allHold, allHold, h c (by simp), ih fun c' hc' => h c' (by simp [hc'])]

theorem Condition.anyHolds_congr {r s : ApprovalRequest} {cs : List Condition}
    (h : ∀ c ∈ cs, c.holds r = c.holds s) : anyHolds r cs = anyHolds s cs := by
  induction cs with
  | nil => rfl
  | cons c cs ih =>
      rw [anyHolds, anyHolds, h c (by simp), ih fun c' hc' => h c' (by simp [hc'])]

section

variable {r s : ApprovalRequest} (hdepartment : r.department = s.department)
  (hmanager : r.requiresManagerApproval = s.requiresManagerApproval)
include hdepartment hmanager

/-- **Amounts that stand alike to the thresholds of a condition cannot be told apart by it.** -/
theorem Condition.holds_of_sameSide (c : Condition)
    (h : SameSide c.thresholds r.amount.value s.amount.value) : c.holds r = c.holds s := by
  induction c with
  | amount comparison threshold =>
      have hside := h threshold (by simp [thresholds])
      simp only [holds, Decimal.compare_eq, hside]
  | department comparison expected => simp only [holds, hdepartment]
  | managerApproval wanted => simp only [holds, hmanager]
  | all parts ih =>
      rw [thresholds, thresholdsIn_eq_flatMap] at h
      rw [holds, holds]
      exact allHold_congr fun p hp => ih p hp (h.of_mem hp)
  | any parts ih =>
      rw [thresholds, thresholdsIn_eq_flatMap] at h
      rw [holds, holds]
      exact anyHolds_congr fun p hp => ih p hp (h.of_mem hp)

theorem Rule.matching_of_sameSide {c : Configuration}
    (h : SameSide c.thresholds r.amount.value s.amount.value) :
    matching c.rules r = matching c.rules s := by
  unfold matching
  congr 1
  refine List.filter_congr ?_
  intro rule hrule
  exact rule.condition.holds_of_sameSide hdepartment hmanager (SameSide.of_mem h hrule)

end

/-! ### Routing on the same side -/

/-- Two runs that came to an end and decided the same. -/
def DecidedAlike (x y : Except CatalogError Outcome) : Prop :=
  ∃ o p, x = .ok o ∧ y = .ok p ∧ o.rulesApplied = p.rulesApplied ∧ o.selected = p.selected ∧
    o.confirmations = p.confirmations

theorem Engine.decidedAlike_of_sameSide {c : Configuration} {d : Directory} {notifier : Notifier}
    {r s : ApprovalRequest} (hdepartment : r.department = s.department)
    (hmanager : r.requiresManagerApproval = s.requiresManagerApproval)
    (h : SameSide c.thresholds r.amount.value s.amount.value) (j k : Journal) :
    DecidedAlike ((⟨.available c, .available d, notifier⟩ : Engine).run r j).1
      ((⟨.available c, .available d, notifier⟩ : Engine).run s k).1 := by
  have hmatching := Rule.matching_of_sameSide hdepartment hmanager h
  have hchosen := d.chosen_of_department_eq hdepartment (Rule.matching c.rules s)
  refine ⟨_, _, (run_available c d notifier r j).1, (run_available c d notifier s k).1, ?_, ?_, ?_⟩
  · simp only [hmatching]
  · simp only [hmatching, hchosen]
  · simp only [hmatching, hchosen]

/--
**The amount decides through the thresholds alone.**

Two requests for one department that agree on whether a manager has to approve are decided
alike if their amounts are both less than, equal to or greater than each threshold of the
configuration.  In particular it makes no difference in what scale an amount is written.
-/
theorem Engine.run_of_same_side (c : Configuration) (d : Directory) (notifier : Notifier)
    {r s : ApprovalRequest} (hdepartment : r.department = s.department)
    (hmanager : r.requiresManagerApproval = s.requiresManagerApproval) (j k : Journal) :
    let e : Engine := ⟨.available c, .available d, notifier⟩
    (SameSide c.thresholds r.amount.value s.amount.value →
      DecidedAlike (e.run r j).1 (e.run s k).1) ∧
    (r.amount.value = s.amount.value → DecidedAlike (e.run r j).1 (e.run s k).1) := by
  intro e
  constructor
  · intro h
    exact decidedAlike_of_sameSide hdepartment hmanager h j k
  · intro h
    refine decidedAlike_of_sameSide hdepartment hmanager ?_ j k
    intro t _
    rw [h]

/-- A request of a thousand and a cent. -/
def centAbove : ApprovalRequest := ⟨⟨false, 100001, 2, by decide, by decide⟩, .hr, true, rfl⟩

/-- A request of the largest power of ten that can be held. -/
def vast : ApprovalRequest := ⟨⟨false, 10 ^ 28, 0, by decide, by decide⟩, .hr, true, rfl⟩

/-- A request of a thousand and a cent, with zeros behind the cent. -/
def centAboveLong : ApprovalRequest :=
  ⟨⟨false, 100001 * 10 ^ 22, 24, by decide, by decide⟩, .hr, true, rfl⟩

theorem Engine.run_of_same_side_above :
    let e : Engine := ⟨.available Seed.configuration, .available (Directory.ofList Seed.approvers),
      .outbox⟩
    (centAbove.department = vast.department ∧
      centAbove.requiresManagerApproval = vast.requiresManagerApproval ∧
      SameSide Seed.configuration.thresholds centAbove.amount.value vast.amount.value ∧
      DecidedAlike (e.run centAbove Journal.empty).1 (e.run vast Journal.empty).1) ∧
    (centAbove.amount.value = centAboveLong.amount.value ∧
      DecidedAlike (e.run centAbove Journal.empty).1 (e.run centAboveLong Journal.empty).1) := by
  intro e
  have hside : SameSide Seed.configuration.thresholds centAbove.amount.value
      vast.amount.value := by
    unfold SameSide
    decide +kernel
  have hvalue : centAbove.amount.value = centAboveLong.amount.value := by decide +kernel
  have habove := run_of_same_side Seed.configuration (Directory.ofList Seed.approvers) .outbox
    (r := centAbove) (s := vast) rfl rfl Journal.empty Journal.empty
  have hlong := run_of_same_side Seed.configuration (Directory.ofList Seed.approvers) .outbox
    (r := centAbove) (s := centAboveLong) rfl rfl Journal.empty Journal.empty
  exact ⟨⟨rfl, rfl, hside, habove.1 hside⟩, hvalue, hlong.2 hvalue⟩

end InvoiceApproval
