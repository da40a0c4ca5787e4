/-
Which rule decides.

The rules that hold of a request are sorted by priority, and the sort is stable.  What
comes out is fixed by two facts alone: it is in order, and the rules of any one priority
stand in it as they were declared (`filter_priority_matching`).  A list in order can be
put together again from its parts of equal priority (`eq_of_priorities`), so it does not
matter how rules of different priorities were mixed.

Only the first of the sorted rules selects approvers.  Said without a sort, it is the
one of least priority and, among those, the one declared first: `IsFirst`.  Whatever
happens to the other rules, nobody else is selected or told as long as that rule stays
the first.
-/
import InvoiceApproval.Catalog.Seed
import InvoiceApproval.Proofs.Run

namespace InvoiceApproval

namespace Rule

variable {rules : List Rule} {r : ApprovalRequest}

/-! ### The sorted rules -/

theorem precedes_iff {a b : Rule} : precedes a b = true ↔ a.priority ≤ b.priority := by
  simp [precedes]

theorem precedes_trans (a b c : Rule) (hab : precedes a b = true) (hbc : precedes b c = true) :
    precedes a c = true := by
  rw [precedes_iff] at *
  omega

theorem precedes_total (a b : Rule) : (precedes a b || precedes b a) = true := by
  rw [Bool.or_eq_true, precedes_iff, precedes_iff]
  omega

/-- The rules that match come by ascending priority. -/
theorem pairwise_matching (rules : List Rule) (r : ApprovalRequest) :
    (matching rules r).Pairwise fun a b => a.priority ≤ b.priority := by
  refine (List.pairwise_mergeSort precedes_trans precedes_total _).imp ?_
  intro a b hab
  exact precedes_iff.1 hab

/-- **Rules of one priority keep the order in which they are declared.** -/
theorem filter_priority_matching (rules : List Rule) (r : ApprovalRequest) (p : Int) :
    (matching rules r).filter (·.priority == p)
      = (rules.filter (·.condition.holds r)).filter (·.priority == p) := by
  unfold matching
  set held := rules.filter fun rule => rule.condition.holds r
  set tied := held.filter (·.priority == p)
  have hprio : ∀ a ∈ tied, a.priority = p := by
    intro a ha
    simpa using (List.mem_filter.1 ha).2
  -- Tied rules are in order whichever way they stand, so the sort leaves them as they are.
  have hordered : tied.Pairwise fun a b => precedes a b = true := by
    refine List.pairwise_of_forall_mem_list ?_
    intro a ha b hb
    rw [precedes_iff]
    exact Int.le_of_eq ((hprio a ha).trans (hprio b hb).symm)
  have hsub : tied.Sublist (held.mergeSort precedes) :=
    List.sublist_mergeSort precedes_trans precedes_total hordered List.filter_sublist
  have hself : tied.filter (·.priority == p) = tied := by
    rw [List.filter_eq_self]
    intro a ha
    simpa using hprio a ha
  have hfilter : tied.Sublist ((held.mergeSort precedes).filter (·.priority == p)) := by
    rw [← hself]
    exact hsub.filter _
  refine (hfilter.eq_of_length ?_).symm
  exact ((List.mergeSort_perm held precedes).filter _).length_eq.symm

/-- **A list in order is put together from its parts of equal priority in one way only.** -/
theorem eq_of_priorities {as bs : List Rule} (has : as.Pairwise fun a b => a.priority ≤ b.priority)
    (hbs : bs.Pairwise fun a b => a.priority ≤ b.priority)
    (h : ∀ p : Int, as.filter (·.priority == p) = bs.filter (·.priority == p)) : as = bs := by
  induction as generalizing bs with
  | nil =>
      cases bs with
      | nil => rfl
      | cons b bs => simpa using h b.priority
  | cons a as ih =>
      cases bs with
      | nil => simpa using h a.priority
      | cons b bs =>
          rw [List.pairwise_cons] at has hbs
          -- Each head is somewhere in the other list, so neither has the lower priority.
          have hab : a ∈ b :: bs := by
            have : a ∈ (b :: bs).filter (·.priority == a.priority) := by
              rw [← h a.priority]
              simp
            exact List.mem_of_mem_filter this
          have hba : b ∈ a :: as := by
            have : b ∈ (a :: as).filter (·.priority == b.priority) := by
              rw [h b.priority]
              simp
            exact List.mem_of_mem_filter this
          have hprio : a.priority = b.priority := by
            rcases List.mem_cons.1 hab with rfl | hab
            · rfl
            rcases List.mem_cons.1 hba with rfl | hba
            · rfl
            exact Int.le_antisymm (has.1 b hba) (hbs.1 a hab)
          have hheads : a = b ∧ as.filter (·.priority == a.priority)
              = bs.filter (·.priority == a.priority) := by
            have := h a.priority
            rw [List.filter_cons_of_pos (by simp), List.filter_cons_of_pos (by simp [hprio])] at this
            exact List.cons.inj this
          obtain ⟨rfl, htied⟩ := hheads
          rw [ih has.2 hbs.2 ?_]
          intro p
          by_cases hp : a.priority = p
          · rw [← hp]
            exact htied
          · have := h p
            rwa [List.filter_cons_of_neg (by simpa using hp),
              List.filter_cons_of_neg (by simpa using hp)] at this

/-- The same rules in another order, but for rules of equal priority, which keep theirs. -/
structure Rearranged (as bs : List Rule) : Prop where
  perm : as.Perm bs
  ties : ∀ p : Int, as.filter (·.priority == p) = bs.filter (·.priority == p)

theorem matching_of_rearranged {as bs : List Rule} (h : Rearranged as bs) (r : ApprovalRequest) :
    matching as r = matching bs r := by
  refine eq_of_priorities (pairwise_matching as r) (pairwise_matching bs r) ?_
  intro p
  rw [filter_priority_matching, filter_priority_matching, List.filter_comm, h.ties p,
    List.filter_comm]

/-! ### The first rule -/

/-- A rule is the one that decides a request: it has the least priority of those that hold,
and none that holds and has the same priority is declared before it. -/
structure IsFirst (rules : List Rule) (r : ApprovalRequest) (rule : Rule) : Prop where
  holds : rule.condition.holds r = true
  least : ∀ other ∈ rules, other.condition.holds r = true → rule.priority ≤ other.priority
  earliest : ∃ before after, rules = before ++ rule :: after ∧
    ∀ other ∈ before, other.condition.holds r = true → other.priority ≠ rule.priority

namespace IsFirst

theorem mem {rule : Rule} (h : IsFirst rules r rule) : rule ∈ rules := by
  obtain ⟨before, after, rfl, -⟩ := h.earliest
  simp

theorem find?_eq {rule : Rule} (h : IsFirst rules r rule) :
    rules.find? (fun other => other.condition.holds r && other.priority == rule.priority)
      = some rule := by
  obtain ⟨before, after, hrules, hbefore⟩ := h.earliest
  rw [List.find?_eq_some_iff_append]
  refine ⟨by simp [h.holds], before, after, hrules, ?_⟩
  intro other hother
  cases hholds : other.condition.holds r with
  | false => rfl
  | true => simpa using hbefore other hother hholds

theorem unique {a b : Rule} (ha : IsFirst rules r a) (hb : IsFirst rules r b) : a = b := by
  have hprio : a.priority = b.priority :=
    Int.le_antisymm (ha.least b hb.mem hb.holds) (hb.least a ha.mem ha.holds)
  have hfind := ha.find?_eq
  rw [hprio, hb.find?_eq] at hfind
  exact (Option.some.inj hfind).symm

end IsFirst

theorem isFirst_of_matching_cons {rule : Rule} {rest : List Rule}
    (h : matching rules r = rule :: rest) : IsFirst rules r rule := by
  have hmem : ∀ other, other ∈ rules ∧ other.condition.holds r = true ↔ other ∈ rule :: rest := by
    intro other
    rw [← h, mem_matching]
  have hsorted := pairwise_matching rules r
  rw [h, List.pairwise_cons] at hsorted
  have hfind : (rules.filter fun other =>
      other.priority == rule.priority && other.condition.holds r).head? = some rule := by
    rw [← List.filter_filter, ← filter_priority_matching, h]
    simp
  rw [List.head?_filter, List.find?_eq_some_iff_append] at hfind
  obtain ⟨-, before, after, hrules, hbefore⟩ := hfind
  refine ⟨((hmem rule).2 (by simp)).2, ?_, before, after, hrules, ?_⟩
  · intro other hother hholds
    rcases List.mem_cons.1 ((hmem other).1 ⟨hother, hholds⟩) with rfl | hrest
    · exact Int.le_refl _
    · exact hsorted.1 other hrest
  · intro other hother hholds
    simpa [hholds] using hbefore other hother

/-- **The first of the sorted rules is the one of least priority that is declared first.** -/
theorem head?_matching_eq_some_iff {rule : Rule} :
    (matching rules r).head? = some rule ↔ IsFirst rules r rule := by
  constructor
  · intro h
    obtain ⟨rest, hrest⟩ := List.head?_eq_some_iff.1 h
    exact isFirst_of_matching_cons hrest
  · intro h
    have hmem : rule ∈ matching rules r := mem_matching.2 ⟨h.mem, h.holds⟩
    cases hmatched : matching rules r with
    | nil => simp [hmatched] at hmem
    | cons first rest => rw [(isFirst_of_matching_cons hmatched).unique h, List.head?_cons]

end Rule

/-! ### What the other rules cannot change -/

/-- Who is selected hangs on the first rule alone. -/
theorem selection_of_head?_eq {directory : Source Directory} {r : ApprovalRequest}
    {as bs : List Rule} (h : as.head? = bs.head?) :
    selection directory r as = selection directory r bs := by
  cases as with
  | nil =>
      rw [List.head?_nil, eq_comm, List.head?_eq_none_iff] at h
      rw [h]
  | cons a as =>
      rw [List.head?_cons, eq_comm, List.head?_eq_some_iff] at h
      obtain ⟨bs, rfl⟩ := h
      rfl

/-- Who is selected by a run, and what it confirms. -/
def Outcome.notified (o : Outcome) : List Approver × List String := (o.selected, o.confirmations)

namespace Engine

theorem sent_of_rules {e : Engine} {c : Configuration} (h : e.rules.fetch = .ok c)
    (r : ApprovalRequest) :
    e.sent r = match selection e.directory r (Rule.matching c.rules r) with
      | .ok selected => e.notifier.notices r selected
      | .error _ => [] := by
  unfold sent
  rw [decision_of_rules h]
  cases selection e.directory r (Rule.matching c.rules r) <;> rfl

theorem notified_of_rules {e : Engine} {c : Configuration} (h : e.rules.fetch = .ok c)
    (r : ApprovalRequest) :
    (e.decision r).map Outcome.notified
      = (selection e.directory r (Rule.matching c.rules r)).map fun selected =>
          (selected, selected.map Notice.confirmation) := by
  rw [decision_of_rules h]
  cases selection e.directory r (Rule.matching c.rules r) <;> rfl

/--
**Neither the order of the rules nor the rules behind the first one decide anything.**

Rules that are rearranged without exchanging any of equal priority give the same outcome.
Rules that are added, removed or changed, and leave the first one that holds as it was,
leave the approvers, the confirmations and the notices as they were.
-/
theorem run_of_same_first_rule (c c' : Configuration) (directory : Source Directory)
    (notifier : Notifier) (r : ApprovalRequest) (j : Journal) :
    let e : Engine := ⟨.available c, directory, notifier⟩
    let e' : Engine := ⟨.available c', directory, notifier⟩
    (Rule.Rearranged c.rules c'.rules →
      (e.run r j).1 = (e'.run r j).1 ∧ (e.run r j).2.outbox = (e'.run r j).2.outbox) ∧
    ((∀ rule, Rule.IsFirst c.rules r rule ↔ Rule.IsFirst c'.rules r rule) →
      (e.run r j).1.map Outcome.notified = (e'.run r j).1.map Outcome.notified ∧
        (e.run r j).2.outbox = (e'.run r j).2.outbox) := by
  intro e e'
  have hrules : e.rules.fetch = .ok c := rfl
  have hrules' : e'.rules.fetch = .ok c' := rfl
  simp only [run_eq, Journal.extend_outbox, sent_of_rules hrules, sent_of_rules hrules']
  constructor
  · intro h
    rw [decision_of_rules hrules, decision_of_rules hrules', Rule.matching_of_rearranged h]
    exact ⟨rfl, rfl⟩
  · intro h
    have hhead : (Rule.matching c.rules r).head? = (Rule.matching c'.rules r).head? := by
      refine Option.ext ?_
      intro rule
      rw [Rule.head?_matching_eq_some_iff, Rule.head?_matching_eq_some_iff]
      exact h rule
    rw [notified_of_rules hrules, notified_of_rules hrules', selection_of_head?_eq hhead]
    exact ⟨rfl, rfl⟩

/-- A rule that holds of every request and goes to one approver. -/
def unconditional (approverId : String) (priority : Int) : Rule :=
  ⟨approverId, approverId, "", .all [], [approverId], priority, .unfiltered⟩

/-- The rules of two approvers tie, and the rule of a third one goes before both. -/
def tied : List Rule := [unconditional "cfo" 1, unconditional "ceo" 1, unconditional "emp-1" 0]

/-- The rule that goes before both has moved between them. -/
def mixed : List Rule := [unconditional "cfo" 1, unconditional "emp-1" 0, unconditional "ceo" 1]

/-- One of the rules behind the first has been taken out, and the other has been changed. -/
def thinned : List Rule := [unconditional "vp-finance" 7, unconditional "emp-1" 0]

theorem rearranged_tied_mixed : Rule.Rearranged tied mixed := by
  refine ⟨List.Perm.cons _ (List.Perm.swap _ _ _), ?_⟩
  intro p
  by_cases hzero : p = 0
  · rw [hzero]
    rfl
  · have hlast : ((unconditional "emp-1" 0).priority == p) = false := by
      simpa [unconditional] using Ne.symm hzero
    simp only [tied, mixed, List.filter_cons, hlast]
    rfl

theorem run_of_same_first_rule_tied :
    let e : List Rule → Engine := fun rules =>
      ⟨.available ⟨"", "", rules⟩, .available (Directory.ofList Seed.approvers), .outbox⟩
    let r : ApprovalRequest := ⟨.ofNat 5, .sales, true, rfl⟩
    (Rule.Rearranged tied mixed ∧
      ((e tied).run r Journal.empty).1 = ((e mixed).run r Journal.empty).1) ∧
    ((∀ rule, Rule.IsFirst tied r rule ↔ Rule.IsFirst thinned r rule) ∧
      ((e tied).run r Journal.empty).1.map Outcome.notified
        = ((e thinned).run r Journal.empty).1.map Outcome.notified) := by
  intro e r
  have htied : (Rule.matching tied r).head? = some (unconditional "emp-1" 0) := by cbv
  have hthinned : (Rule.matching thinned r).head? = some (unconditional "emp-1" 0) := by cbv
  have hfirst : ∀ rule, Rule.IsFirst tied r rule ↔ Rule.IsFirst thinned r rule := by
    intro rule
    rw [← Rule.head?_matching_eq_some_iff, ← Rule.head?_matching_eq_some_iff, htied, hthinned]
  have hmixed := run_of_same_first_rule ⟨"", "", tied⟩ ⟨"", "", mixed⟩
    (.available (Directory.ofList Seed.approvers)) .outbox r Journal.empty
  have hthin := run_of_same_first_rule ⟨"", "", tied⟩ ⟨"", "", thinned⟩
    (.available (Directory.ofList Seed.approvers)) .outbox r Journal.empty
  exact ⟨⟨rearranged_tied_mixed, (hmixed.1 rearranged_tied_mixed).1⟩, hfirst, (hthin.2 hfirst).1⟩

end Engine

end InvoiceApproval
