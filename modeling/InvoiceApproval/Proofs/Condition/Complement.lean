/-
Complementary conditions.

The complement of a condition holds of exactly the requests that the condition does not hold of.
It is got by turning everything round: each comparison into its opposite, each wish for a manager
into the other one, and `all` into `any`.

That the amount is compared exactly makes this true of amounts: one of less, equal and greater is
the case, and every comparison stands for some of the three and its opposite for the others.  It
is not true of a leaf that orders departments.  That one never holds, and neither does the leaf
that it is turned into, so a condition has a complement only if the search for such leaves finds
nothing (`holds_complement`).

Of two rules with complementary conditions every request therefore matches one and only one.
-/
import InvoiceApproval.Proofs.Leaves
import InvoiceApproval.Proofs.Run

namespace InvoiceApproval

/-! ### Opposite comparisons -/

namespace Comparison

/-- The comparison that holds where this one does not. -/
def opposite : Comparison → Comparison
  | equals => notEquals
  | notEquals => equals
  | greaterThan => lessThanOrEquals
  | greaterThanOrEquals => lessThan
  | lessThan => greaterThanOrEquals
  | lessThanOrEquals => greaterThan

theorem opposite_opposite (comparison : Comparison) : comparison.opposite.opposite = comparison := by
  cases comparison <;> rfl

/-- **Of a comparison and its opposite one holds**, however two things compare. -/
theorem holds_opposite (comparison : Comparison) (o : Ordering) :
    comparison.opposite.holds o = !comparison.holds o := by
  cases comparison <;> cases o <;> rfl

/-- The opposite of an order is an order. -/
theorem opposite_mem_orderings_iff {comparison : Comparison} :
    comparison.opposite ∈ orderings ↔ comparison ∈ orderings := by
  cases comparison <;> decide

end Comparison

namespace Condition

/-! ### Turning a condition round -/

mutual

/-- The complement of a condition. -/
def complement : Condition → Condition
  | .amount comparison threshold => .amount comparison.opposite threshold
  | .department comparison expected => .department comparison.opposite expected
  | .managerApproval wanted => .managerApproval !wanted
  | .all parts => .any (complements parts)
  | .any parts => .all (complements parts)

/-- The complements of a list of conditions. -/
def complements : List Condition → List Condition
  | [] => []
  | c :: cs => complement c :: complements cs

end

theorem complements_eq_map (cs : List Condition) : complements cs = cs.map complement := by
  induction cs with
  | nil => rfl
  | cons c cs ih => rw [complements, ih, List.map_cons]

theorem complements_complements {cs : List Condition}
    (h : ∀ c ∈ cs, c.complement.complement = c) : complements (complements cs) = cs := by
  induction cs with
  | nil => rfl
  | cons c cs ih =>
      rw [complements, complements, h c (by simp), ih fun d hd => h d (by simp [hd])]

/-- Turned round twice, a condition is as it was. -/
theorem complement_complement (c : Condition) : c.complement.complement = c := by
  induction c with
  | amount comparison threshold => rw [complement, complement, Comparison.opposite_opposite]
  | department comparison expected => rw [complement, complement, Comparison.opposite_opposite]
  | managerApproval wanted => rw [complement, complement, Bool.not_not]
  | all parts ih => rw [complement, complement, complements_complements ih]
  | any parts ih => rw [complement, complement, complements_complements ih]

theorem leavesIn_complements {cs : List Condition}
    (h : ∀ c ∈ cs, c.complement.leaves = c.leaves.map complement) :
    leavesIn (complements cs) = (leavesIn cs).map complement := by
  induction cs with
  | nil => rfl
  | cons c cs ih =>
      rw [complements, leavesIn, leavesIn, List.map_append, h c (by simp),
        ih fun d hd => h d (by simp [hd])]

/-- The leaves of a complement are the leaves, each turned round where it stands. -/
theorem leaves_complement (c : Condition) : c.complement.leaves = c.leaves.map complement := by
  induction c with
  | amount comparison threshold => rfl
  | department comparison expected => rfl
  | managerApproval wanted => rfl
  | all parts ih => exact leavesIn_complements ih
  | any parts ih => exact leavesIn_complements ih

theorem complaint?_complement_eq_none_iff {leaf : Condition} :
    leaf.complement.complaint? = none ↔ leaf.complaint? = none := by
  cases leaf with
  | department comparison expected =>
      simp [complement, complaint?, Comparison.opposite_mem_orderings_iff]
  | _ => exact iff_of_true rfl rfl

/-- A complement orders departments exactly if the condition does. -/
theorem firstUnordered_complement_eq_none_iff {c : Condition} :
    c.complement.firstUnordered = none ↔ c.firstUnordered = none := by
  rw [firstUnordered_eq_none_iff, firstUnordered_eq_none_iff, leaves_complement,
    List.forall_mem_map]
  exact forall₂_congr fun _ _ => complaint?_complement_eq_none_iff

/-! ### Where a complement holds -/

variable {r : ApprovalRequest}

theorem exists_complements_iff {cs : List Condition}
    (h : ∀ c ∈ cs, c.complement.holds r = !c.holds r) (value : Bool) :
    (∃ c ∈ complements cs, c.holds r = value) ↔ ∃ c ∈ cs, c.holds r = !value := by
  rw [complements_eq_map]
  simp only [List.mem_map, exists_exists_and_eq_and]
  refine exists_congr fun c => and_congr_right fun hc => ?_
  rw [h c hc, Bool.not_eq_eq_eq_not]

/-- **A complement holds exactly where the condition does not**, if no leaf orders
departments. -/
theorem holds_complement {c : Condition} (h : ∀ leaf ∈ c.leaves, leaf.complaint? = none)
    (r : ApprovalRequest) : c.complement.holds r = !c.holds r := by
  induction c with
  | amount comparison threshold => exact comparison.holds_opposite _
  | department comparison expected =>
      have hequality := h _ (List.mem_singleton_self _)
      cases comparison with
      | equals => rfl
      | notEquals => exact (Bool.not_not _).symm
      | _ => cases hequality
  | managerApproval wanted =>
      rw [complement, holds, holds]
      cases wanted <;> cases r.requiresManagerApproval <;> rfl
  | all parts ih =>
      have hparts := fun part hpart => ih part hpart (forall_mem_leavesIn.1 h part hpart)
      rw [Bool.eq_iff_iff, complement, Bool.not_eq_true', holds_any_eq_true_iff,
        holds_all_eq_false_iff]
      exact exists_complements_iff hparts true
  | any parts ih =>
      have hparts := fun part hpart => ih part hpart (forall_mem_leavesIn.1 h part hpart)
      rw [← Bool.not_inj_iff, Bool.not_not, Bool.eq_iff_iff, complement, Bool.not_eq_true',
        holds_any_eq_true_iff, holds_all_eq_false_iff]
      exact exists_complements_iff hparts false

end Condition

/-! ### Rules with complementary conditions -/

namespace Rule

variable {a b : Rule} {r : ApprovalRequest}

/-- Of two rules of which exactly one holds, that one alone is tried. -/
theorem matching_pair (h : b.condition.holds r = !a.condition.holds r) :
    matching [a, b] r = [if a.condition.holds r then a else b] := by
  cases ha : a.condition.holds r with
  | true => simp [matching, h, ha]
  | false => simp [matching, h, ha]

/--
**A complement holds of every request that the condition does not hold of, and of no other.**

It has no leaf that orders departments either, and its own complement is the condition again.  So
of two rules with complementary conditions every request matches exactly one: if there are no
other rules, that one alone is tried, in whichever order the two are declared, and among other
rules one of the two is tried and the other is not.
-/
theorem complements_share_requests {c : Condition} (h : c.firstUnordered = none) :
    (∀ r, c.complement.holds r = true ↔ c.holds r = false) ∧
    c.complement.firstUnordered = none ∧
    c.complement.complement = c ∧
    ∀ a b : Rule, a.condition = c → b.condition = c.complement →
      (∀ r, matching [a, b] r = [if c.holds r then a else b]) ∧
      (∀ r, matching [b, a] r = [if c.holds r then a else b]) ∧
      ∀ rules r, a ∈ rules → b ∈ rules → (a ∈ matching rules r ↔ b ∉ matching rules r) := by
  have hholds := Condition.holds_complement (Condition.firstUnordered_eq_none_iff.1 h)
  refine ⟨?_, Condition.firstUnordered_complement_eq_none_iff.2 h, c.complement_complement, ?_⟩
  · intro r
    rw [hholds, Bool.not_eq_true']
  · rintro a b rfl hb
    refine ⟨?_, ?_, ?_⟩
    · intro r
      exact matching_pair (hb ▸ hholds r)
    · intro r
      rw [matching_pair (by rw [hb, hholds, Bool.not_not]), hb, hholds]
      cases a.condition.holds r <;> rfl
    · intro rules r ha hb'
      simp [mem_matching, ha, hb', hb, hholds]

/-- A condition with empty branches and its complement share the requests between them. -/
theorem complements_share_requests_nested :
    let c : Condition := .all [.amount .greaterThan (.ofNat 1000), .any [],
      .any [.department .equals .hr, .managerApproval true, .all []]]
    let r : ApprovalRequest := ⟨.ofNat 1000, .hr, true, rfl⟩
    let a : Rule := ⟨"a", "A", "", c, [], 0, .unfiltered⟩
    let b : Rule := ⟨"b", "B", "", c.complement, [], 0, .unfiltered⟩
    c.firstUnordered = none ∧
      c.complement = .any [.amount .lessThanOrEquals (.ofNat 1000), .all [],
        .all [.department .notEquals .hr, .managerApproval false, .any []]] ∧
      (c.complement.holds r = true ↔ c.holds r = false) ∧ matching [a, b] r = [b] := by
  intro c r a b
  have hnone : c.firstUnordered = none := rfl
  obtain ⟨hholds, -, -, hrules⟩ := complements_share_requests hnone
  have hmatching := (hrules a b rfl rfl).1 r
  rw [show c.holds r = false by decide] at hmatching
  exact ⟨hnone, rfl, hholds r, hmatching⟩

end Rule

end InvoiceApproval
