/-
What an evaluation looks at, and what a search looks at.

To find out whether a condition holds of a request, its leaves are looked at from left to
right, and a branch is left as soon as a part decides it.  `inspected` lists the leaves that are
looked at.  What the others say makes no difference (`holds_mapLeaves`).

A leaf that orders departments holds of nothing, so it says no more than a branch without parts
of which one has to hold: put in its place, such a branch changes the value of no condition.

The search for such leaves is not an evaluation.  It knows no request and is not stopped by a
part that decides a branch, so the leaf that it finds is the first one of all
(`firstUnordered_eq_some_iff`), also where no evaluation ever comes to it.
-/
import InvoiceApproval.Proofs.Leaves

namespace InvoiceApproval

namespace Condition

/-! ### Leaves that are looked at -/

mutual

/-- The leaves that are looked at to find out whether a condition holds of a request.  A
branch is left at the first part that decides it: if every part has to hold at the first one
that does not, else at the first one that does. -/
def inspected (r : ApprovalRequest) : Condition → List Condition
  | .amount comparison threshold => [.amount comparison threshold]
  | .department comparison expected => [.department comparison expected]
  | .managerApproval wanted => [.managerApproval wanted]
  | .all parts => inspectedUntil r false parts
  | .any parts => inspectedUntil r true parts

/-- The leaves that are looked at in a list of conditions, up to the first condition that
evaluates to `stop`. -/
def inspectedUntil (r : ApprovalRequest) (stop : Bool) : List Condition → List Condition
  | [] => []
  | c :: cs => inspected r c ++ if holds r c = stop then [] else inspectedUntil r stop cs

end

/-- Behind a part that decides a branch nothing is looked at. -/
theorem inspectedUntil_append {r : ApprovalRequest} {stop : Bool} {before : List Condition}
    (h : ∃ part ∈ before, part.holds r = stop) (after : List Condition) :
    inspectedUntil r stop (before ++ after) = inspectedUntil r stop before := by
  induction before with
  | nil => simp at h
  | cons c cs ih =>
      rw [List.cons_append, inspectedUntil, inspectedUntil]
      by_cases hstop : c.holds r = stop
      · rw [if_pos hstop, if_pos hstop]
      · simp only [List.mem_cons, exists_eq_or_imp] at h
        rw [if_neg hstop, if_neg hstop, ih (h.resolve_left hstop)]

theorem exists_mapLeavesIn_iff {f : Condition → Condition} {r : ApprovalRequest} {stop : Bool}
    {cs : List Condition}
    (ih : ∀ c ∈ cs, (∀ leaf ∈ c.inspected r, (f leaf).holds r = leaf.holds r) →
      (c.mapLeaves f).holds r = c.holds r)
    (h : ∀ leaf ∈ inspectedUntil r stop cs, (f leaf).holds r = leaf.holds r) :
    (∃ c ∈ mapLeavesIn f cs, c.holds r = stop) ↔ ∃ c ∈ cs, c.holds r = stop := by
  induction cs with
  | nil => rfl
  | cons c cs ihs =>
      rw [inspectedUntil, List.forall_mem_append] at h
      simp only [mapLeavesIn, List.mem_cons, exists_eq_or_imp, ih c (by simp) h.1]
      by_cases hstop : c.holds r = stop
      · exact iff_of_true (.inl hstop) (.inl hstop)
      · rw [if_neg hstop] at h
        rw [ihs (fun d hd => ih d (by simp [hd])) h.2]

/-- **Only the leaves that are looked at matter.**  Where each of these is replaced by something
that holds of the request if and only if the leaf does, so does the whole. -/
theorem holds_mapLeaves {f : Condition → Condition} {r : ApprovalRequest} {c : Condition}
    (h : ∀ leaf ∈ c.inspected r, (f leaf).holds r = leaf.holds r) :
    (c.mapLeaves f).holds r = c.holds r := by
  induction c with
  | amount comparison threshold => exact h _ (List.mem_singleton_self _)
  | department comparison expected => exact h _ (List.mem_singleton_self _)
  | managerApproval wanted => exact h _ (List.mem_singleton_self _)
  | all parts ih =>
      have hiff := exists_mapLeavesIn_iff ih h
      rw [← holds_all_eq_false_iff, ← holds_all_eq_false_iff] at hiff
      rw [mapLeaves, ← Bool.not_inj_iff, Bool.eq_iff_iff, Bool.not_eq_true', Bool.not_eq_true']
      exact hiff
  | any parts ih =>
      have hiff := exists_mapLeavesIn_iff ih h
      rw [← holds_any_eq_true_iff, ← holds_any_eq_true_iff] at hiff
      exact Bool.eq_iff_iff.2 hiff

/-! ### Leaves that order departments -/

/-- What says as much as a leaf: a branch that never holds, if the leaf orders departments, and
else the leaf itself. -/
def withoutOrder : Condition → Condition
  | .department comparison expected =>
    if comparison ∈ Comparison.orderings then .any [] else .department comparison expected
  | leaf => leaf

/-- A condition with every leaf that orders departments replaced by a branch without parts, of
which one would have to hold. -/
def withoutOrders (c : Condition) : Condition := c.mapLeaves withoutOrder

theorem withoutOrder_of_complaint? {leaf : Condition} {u : UnorderedComparison}
    (h : leaf.complaint? = some u) : leaf.withoutOrder = .any [] := by
  obtain ⟨hordering, expected, rfl⟩ := complaint?_eq_some_iff.1 h
  exact if_pos hordering

theorem withoutOrder_eq_self_iff {leaf : Condition} :
    leaf.withoutOrder = leaf ↔ leaf.complaint? = none := by
  cases leaf with
  | department comparison expected =>
      by_cases h : comparison ∈ Comparison.orderings <;> simp [withoutOrder, complaint?, h]
  | _ => simp [withoutOrder, complaint?]

theorem holds_withoutOrder (leaf : Condition) (r : ApprovalRequest) :
    leaf.withoutOrder.holds r = leaf.holds r := by
  cases hcomplaint : leaf.complaint? with
  | none => rw [withoutOrder_eq_self_iff.2 hcomplaint]
  | some u =>
      rw [withoutOrder_of_complaint? hcomplaint]
      obtain ⟨hordering, expected, rfl⟩ := complaint?_eq_some_iff.1 hcomplaint
      exact (departmentHolds_of_mem_orderings hordering _ _).symm

/-- **Leaves that order departments say nothing.** -/
theorem holds_withoutOrders (c : Condition) (r : ApprovalRequest) :
    c.withoutOrders.holds r = c.holds r :=
  holds_mapLeaves fun leaf _ => leaf.holds_withoutOrder r

theorem withoutOrders_eq_self_iff {c : Condition} :
    c.withoutOrders = c ↔ c.firstUnordered = none := by
  rw [firstUnordered_eq_none_iff, withoutOrders, mapLeaves_eq_self_iff]
  exact forall₂_congr fun _ _ => withoutOrder_eq_self_iff

/-! ### The search -/

theorem forall_complaint?_eq_none_iff {leaves : List Condition} :
    (∀ leaf ∈ leaves, leaf.complaint? = none)
      ↔ ∀ comparison ∈ Comparison.orderings, ∀ expected,
          .department comparison expected ∉ leaves := by
  constructor
  · intro h comparison hordering expected hmem
    have hnone := h _ hmem
    rw [complaint?, if_pos hordering] at hnone
    cases hnone
  · intro h leaf hmem
    cases hcomplaint : leaf.complaint? with
    | none => rfl
    | some u =>
        obtain ⟨hordering, expected, rfl⟩ := complaint?_eq_some_iff.1 hcomplaint
        exact absurd hmem (h _ hordering expected)

/-- **What is found is the first leaf that orders departments.** -/
theorem firstUnordered_eq_some_iff {c : Condition} {u : UnorderedComparison} :
    c.firstUnordered = some u ↔ ∃ before expected after,
      c.leaves = before ++ .department u.comparison expected :: after ∧
        u.comparison ∈ Comparison.orderings ∧
        ∀ comparison ∈ Comparison.orderings, ∀ expected,
          .department comparison expected ∉ before := by
  rw [firstUnordered_eq_head?, complaints, List.head?_filterMap, List.findSome?_eq_some_iff]
  constructor
  · rintro ⟨before, leaf, after, hleaves, hcomplaint, hbefore⟩
    obtain ⟨hordering, expected, rfl⟩ := complaint?_eq_some_iff.1 hcomplaint
    exact ⟨before, expected, after, hleaves, hordering, forall_complaint?_eq_none_iff.1 hbefore⟩
  · rintro ⟨before, expected, after, hleaves, hordering, hbefore⟩
    exact ⟨before, _, after, hleaves, complaint?_eq_some_iff.2 ⟨hordering, expected, rfl⟩,
      forall_complaint?_eq_none_iff.2 hbefore⟩

theorem firstUnorderedIn_append (before after : List Condition) :
    firstUnorderedIn (before ++ after)
      = (firstUnorderedIn before).or (firstUnorderedIn after) := by
  induction before with
  | nil => rfl
  | cons c cs ih => rw [List.cons_append, firstUnorderedIn, firstUnorderedIn, ih, Option.or_assoc]

/--
**Orders of departments are dead leaves, and the search finds the first of them.**

Put a branch that never holds in the place of every such leaf: the condition holds of the same
requests as before.  The search finds nothing exactly if there is no such leaf, and else what it
finds carries the comparison of the first one from left to right.  It also goes on where an
evaluation stops: behind parts that decide a branch no leaf is looked at any more, but whatever
stands there is searched.
-/
theorem orders_are_dead_leaves (c : Condition) :
    (∀ r, c.withoutOrders.holds r = c.holds r) ∧
    (c.firstUnordered = none ↔ ¬ c.OrdersDepartments) ∧
    (c.firstUnordered = none ↔ c.withoutOrders = c) ∧
    (∀ u, c.firstUnordered = some u ↔ ∃ before expected after,
      c.leaves = before ++ .department u.comparison expected :: after ∧
        u.comparison ∈ Comparison.orderings ∧
        ∀ comparison ∈ Comparison.orderings, ∀ expected,
          .department comparison expected ∉ before) ∧
    ∀ before after,
      (∀ r, (all before).holds r = false →
        (all (before ++ c :: after)).inspected r = (all before).inspected r) ∧
      (∀ r, (any before).holds r = true →
        (any (before ++ c :: after)).inspected r = (any before).inspected r) ∧
      (all (before ++ c :: after)).firstUnordered
        = (all before).firstUnordered.or (c.firstUnordered.or (all after).firstUnordered) ∧
      (any (before ++ c :: after)).firstUnordered
        = (any before).firstUnordered.or (c.firstUnordered.or (any after).firstUnordered) := by
  refine ⟨c.holds_withoutOrders, firstUnordered_eq_none_iff_not_ordersDepartments,
    withoutOrders_eq_self_iff.symm, fun u => firstUnordered_eq_some_iff, ?_⟩
  intro before after
  refine ⟨?_, ?_, firstUnorderedIn_append before (c :: after),
    firstUnorderedIn_append before (c :: after)⟩
  · intro r hfails
    exact inspectedUntil_append (holds_all_eq_false_iff.1 hfails) (c :: after)
  · intro r hholds
    exact inspectedUntil_append (holds_any_eq_true_iff.1 hholds) (c :: after)

/-- Behind a part that decides the branch a nested order is not looked at, and yet it is found. -/
theorem orders_are_dead_leaves_behind :
    let r : ApprovalRequest := ⟨.ofNat 5, .sales, true, rfl⟩
    let nested := all [managerApproval false, department .lessThan .hr]
    (any [managerApproval true]).holds r = true ∧
      (any [managerApproval true, nested]).inspected r = [managerApproval true] ∧
      (any [managerApproval true, nested]).firstUnordered = some ⟨.lessThan⟩ ∧
      nested.withoutOrders = all [managerApproval false, any []] ∧
      nested.withoutOrders.holds r = nested.holds r := by
  intro r nested
  obtain ⟨hsame, -, -, hfirst, hbranch⟩ := orders_are_dead_leaves nested
  obtain ⟨-, hinspected, -, hsearched⟩ := hbranch [managerApproval true] []
  have hfound : nested.firstUnordered = some ⟨.lessThan⟩ :=
    (hfirst _).2 ⟨[managerApproval false], .hr, [], rfl, by decide, by simp⟩
  exact ⟨rfl, hinspected r rfl, hsearched.trans (by rw [hfound]; rfl), rfl, hsame r⟩

end Condition

end InvoiceApproval
