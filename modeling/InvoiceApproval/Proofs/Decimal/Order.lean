/-
Decimals in order.

Decimals are compared by multiplying each coefficient by the other's power of ten, so
nothing is divided and nothing overflows.  That this is the order of the numbers is
`compare_eq`, and it is all that thresholds and signs rest on: a decimal is negative
exactly if its number is, and two decimals of one number compare alike, whatever their
scales.
-/
import InvoiceApproval.Condition
import InvoiceApproval.Proofs.Decimal.Capacity

namespace InvoiceApproval

namespace Decimal

/-- Multiplying by both powers of ten keeps the order that dividing by each gives. -/
theorem value_lt_iff (a b : Decimal) :
    a.value < b.value ↔
      a.coefficient * Text.tenTo b.scale < b.coefficient * Text.tenTo a.scale := by
  unfold value
  rw [tenTo_eq, tenTo_eq]
  push_cast
  rw [div_lt_div_iff₀ (by positivity) (by positivity)]
  exact_mod_cast Iff.rfl

/-- **Decimals compare as their numbers do.** -/
theorem compare_eq (a b : Decimal) : a.compare b = Ord.compare a.value b.value := by
  unfold compare
  have hlt := value_lt_iff a b
  have hgt := value_lt_iff b a
  rcases lt_trichotomy a.value b.value with h | h | h
  · rw [compare_lt_iff_lt.2 h, compare_lt_iff_lt.2 (hlt.1 h)]
  · rw [compare_eq_iff_eq.2 h, compare_eq_iff_eq]
    have hab := mt hlt.2 (by rw [h]; exact lt_irrefl _)
    have hba := mt hgt.2 (by rw [h]; exact lt_irrefl _)
    omega
  · rw [compare_gt_iff_gt.2 h, compare_gt_iff_gt.2 (hgt.1 h)]

/-- **A decimal is negative exactly if its number is.** -/
theorem isNegative_iff (d : Decimal) : d.isNegative = true ↔ d.value < 0 := by
  rw [isNegative_eq_true_iff]
  unfold value
  rw [tenTo_eq]
  push_cast
  rw [div_neg_iff]
  have hpos : (0 : Rat) < 10 ^ d.scale := by positivity
  constructor
  · intro h
    exact Or.inr ⟨by exact_mod_cast h, hpos⟩
  · rintro (⟨-, h⟩ | ⟨h, -⟩)
    · exact absurd h (not_lt.2 hpos.le)
    · exact_mod_cast h

end Decimal

end InvoiceApproval
