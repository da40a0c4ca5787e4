/-
In which order rules are tried.

The rules that hold of a request are sorted, and this is what a sort has to do with them, said
without one.  It gives back what it was given, neither more nor less; the priorities of what
comes out do not decrease; and rules of one priority come out as they are declared.  No list
but one has all three (`Arranged.eq_matching`).

A rule may be declared twice, and then the two can only be told apart by their places.  So the
same three facts are stated of places, too: `TriedIn` is an order of the places of a list, and
it goes by priority first and by place second (`TriedIn.pairwise_before`).  That leaves no
choice, and the rules at these places are the rules that are tried.  The first of them is at the
place that goes before all others: it decides.
-/
import InvoiceApproval.Proofs.Precedence

namespace InvoiceApproval

namespace Rule

variable {rules : List Rule} {r : ApprovalRequest}

/-! ### What comes out -/

/-- A list holds the rules that hold of a request, in the order in which they are to be tried. -/
structure Arranged (rules : List Rule) (r : ApprovalRequest) (tried : List Rule) : Prop where
  /-- A rule that holds is tried as often as it is declared, and any other never. -/
  count : ∀ rule, tried.count rule = if rule.condition.holds r then rules.count rule else 0
  ascending : tried.Pairwise fun a b => a.priority ≤ b.priority
  /-- Rules of one priority are tried as they are declared. -/
  ties : ∀ p : Int, (tried.filter (·.priority == p)).Sublist rules

theorem count_filter_holds (rules : List Rule) (r : ApprovalRequest) (rule : Rule) :
    (rules.filter (·.condition.holds r)).count rule
      = if rule.condition.holds r then rules.count rule else 0 := by
  cases hholds : rule.condition.holds r with
  | true => exact List.count_filter hholds
  | false =>
      rw [if_neg (by simp), List.count_eq_zero]
      intro hmem
      exact absurd (List.mem_filter.1 hmem).2 (by simp [hholds])

theorem arranged_matching (rules : List Rule) (r : ApprovalRequest) :
    Arranged rules r (matching rules r) where
  count rule := by
    rw [← count_filter_holds]
    exact (List.mergeSort_perm _ _).count_eq rule
  ascending := pairwise_matching rules r
  ties p := by
    rw [filter_priority_matching]
    exact List.filter_sublist.trans List.filter_sublist

theorem Arranged.perm {tried : List Rule} (h : Arranged rules r tried) :
    tried.Perm (rules.filter (·.condition.holds r)) := by
  rw [List.perm_iff_count]
  intro rule
  rw [h.count, count_filter_holds]

/-- The rules of one priority stand in an arranged list as the sort leaves them. -/
theorem Arranged.filter_priority {tried : List Rule} (h : Arranged rules r tried) (p : Int) :
    tried.filter (·.priority == p)
      = (rules.filter (·.condition.holds r)).filter (·.priority == p) := by
  have hall : ∀ rule ∈ tried.filter (·.priority == p),
      (rule.priority == p && rule.condition.holds r) = true := by
    intro rule hrule
    obtain ⟨hmem, hp⟩ := List.mem_filter.1 hrule
    rw [hp, (List.mem_filter.1 (h.perm.subset hmem)).2]
    rfl
  -- They are as many as are declared, and stand among those: so they are just these.
  have hsub : (tried.filter (·.priority == p)).Sublist
      ((rules.filter (·.condition.holds r)).filter (·.priority == p)) := by
    have hfiltered := (h.ties p).filter fun rule => rule.priority == p && rule.condition.holds r
    rwa [List.filter_eq_self.2 hall, ← List.filter_filter] at hfiltered
  exact hsub.eq_of_length (h.perm.filter _).length_eq

/-- **Only one list is arranged like this.** -/
theorem Arranged.eq_matching {tried : List Rule} (h : Arranged rules r tried) :
    tried = matching rules r := by
  refine eq_of_priorities h.ascending (pairwise_matching rules r) ?_
  intro p
  rw [h.filter_priority, filter_priority_matching]

/-! ### Places -/

/-- Places of declared rules, in the order in which the rules there are to be tried. -/
structure TriedIn (rules : List Rule) (r : ApprovalRequest) (order : List (Fin rules.length)) :
    Prop where
  /-- Every place whose rule holds is there once, and no other place. -/
  count : ∀ i, order.count i = if (rules.get i).condition.holds r then 1 else 0
  ascending : order.Pairwise fun i j => (rules.get i).priority ≤ (rules.get j).priority
  /-- Of two places whose rules have one priority, the one that is declared first comes first. -/
  ties : order.Pairwise fun i j => (rules.get i).priority = (rules.get j).priority → i < j

/-- The places of the rules that hold of a request, as they are declared. -/
def placesHeld (rules : List Rule) (r : ApprovalRequest) : List (Fin rules.length) :=
  (List.finRange rules.length).filter ((·.condition.holds r) ∘ rules.get)

theorem mem_placesHeld {i : Fin rules.length} :
    i ∈ placesHeld rules r ↔ (rules.get i).condition.holds r = true := by
  simp [placesHeld]

theorem nodup_placesHeld (rules : List Rule) (r : ApprovalRequest) : (placesHeld rules r).Nodup :=
  (List.nodup_finRange _).filter _

theorem map_get_placesHeld (rules : List Rule) (r : ApprovalRequest) :
    (placesHeld rules r).map rules.get = rules.filter (·.condition.holds r) := by
  rw [placesHeld, ← List.filter_map, List.map_get_finRange]

/-- A place goes before another: by the priority of its rule, or else as the place that it is. -/
def Before (rules : List Rule) (i j : Fin rules.length) : Prop :=
  (rules.get i).priority < (rules.get j).priority ∨
    (rules.get i).priority = (rules.get j).priority ∧ i < j

instance (rules : List Rule) (i j : Fin rules.length) : Decidable (Before rules i j) :=
  inferInstanceAs (Decidable (_ ∨ _))

theorem Before.asymm {i j : Fin rules.length} (h : Before rules i j) : ¬ Before rules j i := by
  unfold Before at *
  omega

theorem before_of_not_before {i j : Fin rules.length} (hne : i ≠ j) (h : ¬ Before rules j i) :
    Before rules i j := by
  unfold Before at *
  omega

variable {order : List (Fin rules.length)}

/-- **By priority and then by place**: the three facts leave no choice. -/
theorem triedIn_iff :
    TriedIn rules r order ↔ order.Perm (placesHeld rules r) ∧ order.Pairwise (Before rules) := by
  have hcount : (∀ i, order.count i = if (rules.get i).condition.holds r then 1 else 0)
      ↔ order.Perm (placesHeld rules r) := by
    simp only [List.perm_iff_count, (nodup_placesHeld rules r).count, mem_placesHeld]
  have hbefore : ∀ i j : Fin rules.length, Before rules i j ↔
      (rules.get i).priority ≤ (rules.get j).priority ∧
        ((rules.get i).priority = (rules.get j).priority → i < j) := by
    intro i j
    unfold Before
    omega
  rw [← hcount, List.Pairwise.iff hbefore, List.pairwise_and_iff]
  exact ⟨fun h => ⟨h.count, h.ascending, h.ties⟩, fun ⟨h, hle, hties⟩ => ⟨h, hle, hties⟩⟩

namespace TriedIn

theorem mem_iff (h : TriedIn rules r order) {i : Fin rules.length} :
    i ∈ order ↔ (rules.get i).condition.holds r = true := by
  rw [(triedIn_iff.1 h).1.mem_iff, mem_placesHeld]

/-- There is only one such order. -/
theorem unique {other : List (Fin rules.length)} (h : TriedIn rules r order)
    (h' : TriedIn rules r other) : order = other := by
  obtain ⟨hperm, hbefore⟩ := triedIn_iff.1 h
  obtain ⟨hperm', hbefore'⟩ := triedIn_iff.1 h'
  refine (hperm.trans hperm'.symm).eq_of_pairwise ?_ hbefore hbefore'
  intro i j _ _ hij hji
  exact absurd hji hij.asymm

/-- **The rules at these places are arranged**, the ones that are declared twice included. -/
theorem arranged (h : TriedIn rules r order) : Arranged rules r (order.map rules.get) where
  count rule := by
    have hperm := (triedIn_iff.1 h).1.map rules.get
    rw [map_get_placesHeld] at hperm
    rw [hperm.count_eq, count_filter_holds]
  ascending := List.pairwise_map.2 h.ascending
  ties p := by
    rw [List.filter_map]
    refine List.map_getElem_sublist ?_
    -- All of these places have rules of one priority, so they come as they are declared.
    refine (h.ties.filter _).imp_of_mem ?_
    intro i j hi hj hties
    have hip := beq_iff_eq.1 (List.mem_filter.1 hi).2
    have hjp := beq_iff_eq.1 (List.mem_filter.1 hj).2
    exact hties (hip.trans hjp.symm)

end TriedIn

/-- A place does not go behind another. -/
def notBehind (rules : List Rule) (i j : Fin rules.length) : Bool := !decide (Before rules j i)

theorem notBehind_iff {i j : Fin rules.length} :
    notBehind rules i j = true ↔ ¬ Before rules j i := by
  simp [notBehind]

/-- **The places can be put in order.** -/
theorem exists_triedIn (rules : List Rule) (r : ApprovalRequest) :
    ∃ order, TriedIn rules r order := by
  have htrans : ∀ i j k, notBehind rules i j = true → notBehind rules j k = true →
      notBehind rules i k = true := by
    intro i j k
    simp only [notBehind_iff, Before]
    omega
  have htotal : ∀ i j, (notBehind rules i j || notBehind rules j i) = true := by
    intro i j
    rw [Bool.or_eq_true, notBehind_iff, notBehind_iff]
    unfold Before
    omega
  have hperm := List.mergeSort_perm (placesHeld rules r) (notBehind rules)
  have hsorted := List.pairwise_mergeSort htrans htotal (placesHeld rules r)
  refine ⟨_, triedIn_iff.2 ⟨hperm, ?_⟩⟩
  refine ((hperm.nodup_iff.2 (nodup_placesHeld rules r)).and hsorted).imp ?_
  rintro i j ⟨hne, hij⟩
  exact before_of_not_before hne (notBehind_iff.1 hij)

/-! ### The first one -/

/-- The rule at a place holds, and the place goes before every other whose rule holds. -/
structure Leads (rules : List Rule) (r : ApprovalRequest) (i : Fin rules.length) : Prop where
  holds : (rules.get i).condition.holds r = true
  least : ∀ j, (rules.get j).condition.holds r = true → j ≠ i → Before rules i j

theorem TriedIn.head?_eq_some_iff (h : TriedIn rules r order) {i : Fin rules.length} :
    order.head? = some i ↔ Leads rules r i := by
  have hbefore := (triedIn_iff.1 h).2
  cases order with
  | nil =>
      refine iff_of_false nofun ?_
      intro hleads
      exact absurd (h.mem_iff.2 hleads.holds) List.not_mem_nil
  | cons first rest =>
      rw [List.pairwise_cons] at hbefore
      rw [List.head?_cons, Option.some_inj]
      constructor
      · rintro rfl
        refine ⟨h.mem_iff.1 List.mem_cons_self, ?_⟩
        intro j hj hne
        exact hbefore.1 j (List.mem_of_ne_of_mem hne (h.mem_iff.2 hj))
      · intro hleads
        by_contra hne
        have hi := List.mem_of_ne_of_mem (Ne.symm hne) (h.mem_iff.2 hleads.holds)
        have hfirst := hleads.least first (h.mem_iff.1 List.mem_cons_self) hne
        exact hfirst.asymm (hbefore.1 i hi)

/--
**Rules are tried by priority, and in the order of their declaration where priorities are equal.**

Every rule that holds is tried as often as it is declared and no other is, priorities do not
decrease, and rules of one priority are tried as they are declared: this is true of the rules
that match and of no other list.  Of the places of the rules it is true as well, so that rules
that are declared twice are told apart.  The first rule is the one at the place with the least
priority, and the first of these places.
-/
theorem matching_stable (rules : List Rule) (r : ApprovalRequest) :
    (∀ tried, Arranged rules r tried ↔ tried = matching rules r) ∧
    (∃ order : List (Fin rules.length), (∀ other, TriedIn rules r other ↔ other = order) ∧
      matching rules r = order.map rules.get) ∧
    (∀ rule, (matching rules r).head? = some rule ↔ ∃ i, Leads rules r i ∧ rules.get i = rule) := by
  obtain ⟨order, horder⟩ := exists_triedIn rules r
  have hmatching : matching rules r = order.map rules.get := horder.arranged.eq_matching.symm
  refine ⟨?_, ⟨order, ?_, hmatching⟩, ?_⟩
  · intro tried
    exact ⟨Arranged.eq_matching, fun h => h ▸ arranged_matching rules r⟩
  · intro other
    exact ⟨fun h => h.unique horder, fun h => h ▸ horder⟩
  · intro rule
    rw [hmatching, List.head?_map, Option.map_eq_some_iff]
    simp only [horder.head?_eq_some_iff]

/-- Of three rules that hold, two of them equal, the last declared goes first. -/
example : matching [⟨"a", "A", "", .all [], [], 2147483647, .unfiltered⟩,
    ⟨"a", "A", "", .all [], [], 2147483647, .unfiltered⟩,
    ⟨"b", "B", "", .all [], [], -2147483648, .unfiltered⟩] ⟨.ofNat 5, .sales, true, rfl⟩
      = [⟨"b", "B", "", .all [], [], -2147483648, .unfiltered⟩,
        ⟨"a", "A", "", .all [], [], 2147483647, .unfiltered⟩,
        ⟨"a", "A", "", .all [], [], 2147483647, .unfiltered⟩] := by
  cbv

end Rule

end InvoiceApproval
