/-
What a strict reader refuses.

Readers differ in one thing.  A condition that orders departments can never hold as it is
written; a strict reader refuses the catalog for it, and a lenient one warns and goes on.  So
the faults that a strict reader sees in a rule are those that a lenient one sees, and behind
them those of its condition (`faults_true`).

Two readings of one text go side by side until the strict one meets such a condition.  If it
never does, they end in the same way and have told the same.  If it does, it names the rule
that the lenient reading warns of first, or the first one in front of the rule at which the
lenient reading fails.
-/
import InvoiceApproval.Proofs.Catalog.Faults

namespace InvoiceApproval

/-- Whether an event warns of a condition that can never hold. -/
def Event.isUnsatisfiable (e : Event) : Bool :=
  e.name == "system.catalog.unsatisfiable_condition"

namespace Rule

/-- What a strict reader has against a rule that a lenient one would accept, if anything. -/
def strictFault? (rule : Rule) : Option Violation :=
  rule.condition.firstUnordered.map (.unorderedComparison rule.id)

theorem head?_conditionFaults (rule : Rule) : rule.conditionFaults.head? = rule.strictFault? := by
  rw [conditionFaults, List.head?_map, strictFault?, Condition.firstUnordered_eq_head?]

theorem head?_flatMap_conditionFaults (rules : List Rule) :
    (rules.flatMap conditionFaults).head? = rules.findSome? strictFault? := by
  simp only [List.head?_flatMap, head?_conditionFaults]

/-- A strict reader sees the faults that a lenient one sees, and then those of the condition. -/
theorem faults_true (front : List Rule) (rule : Rule) :
    rule.faults true front = rule.faults false front ++ rule.conditionFaults := by
  simp [faults]

/-- **Where a lenient reader finds nothing, a strict one finds fault with conditions only.** -/
theorem findings_true {front rules : List Rule} (h : findings (faults false) front rules = []) :
    findings (faults true) front rules = rules.flatMap conditionFaults := by
  induction rules generalizing front with
  | nil => rfl
  | cons rule rules ih =>
      rw [findings, List.append_eq_nil_iff] at h
      rw [findings, faults_true, h.1, ih h.2, List.nil_append, List.flatMap_cons]

/-- Of the warnings about a rule, the one about its condition tells of a condition. -/
theorem filter_isUnsatisfiable_warnings (approvers : List Approver) (rule : Rule) :
    (rule.warnings approvers).filter (·.isUnsatisfiable) = rule.conditionWarning?.toList := by
  have hunknown : (rule.unknownWarnings approvers).filter (·.isUnsatisfiable) = [] := by
    rw [unknownWarnings, List.filter_map, List.map_eq_nil_iff, List.filter_eq_nil_iff]
    intro id _
    simp [Event.isUnsatisfiable, Catalog.unknownApproverEvent]
  rw [warnings, List.filter_append, hunknown, List.append_nil, conditionWarning?]
  cases rule.condition.firstUnordered with
  | none => rfl
  | some complaint => simp [Event.isUnsatisfiable, Catalog.unsatisfiableEvent]

theorem filter_isUnsatisfiable_flatMap (approvers : List Approver) (rules : List Rule) :
    (rules.flatMap (warnings approvers)).filter (·.isUnsatisfiable)
      = rules.filterMap conditionWarning? := by
  rw [List.filter_flatMap, List.filterMap_eq_flatMap_toList]
  simp only [filter_isUnsatisfiable_warnings]

theorem strictFault?_eq_none_iff {rule : Rule} :
    rule.strictFault? = none ↔ rule.conditionWarning? = none := by
  simp [strictFault?, conditionWarning?]

/-- **The first rule that is warned of is the one that a strict reader names.** -/
theorem exists_of_head?_filterMap {rules : List Rule} {warned : Event}
    (h : (rules.filterMap conditionWarning?).head? = some warned) :
    ∃ rule ∈ rules, ∃ complaint, rule.condition.firstUnordered = some complaint ∧
      warned = Catalog.unsatisfiableEvent rule complaint ∧
      rules.findSome? strictFault? = some (.unorderedComparison rule.id complaint) := by
  rw [List.head?_filterMap, List.findSome?_eq_some_iff] at h
  obtain ⟨before, rule, after, hrules, hwarned, hbefore⟩ := h
  obtain ⟨complaint, hcomplaint, rfl⟩ := Option.map_eq_some_iff.1 hwarned
  refine ⟨rule, by simp [hrules], complaint, hcomplaint, rfl, ?_⟩
  rw [List.findSome?_eq_some_iff]
  refine ⟨before, rule, after, hrules, by rw [strictFault?, hcomplaint]; rfl, ?_⟩
  intro other hother
  exact strictFault?_eq_none_iff.2 (hbefore other hother)

end Rule

namespace Catalog

variable {raw origin : String} {j : Journal} {c : Catalog}

/-- Why a lenient reader refuses a text, and the rules that have passed until then. -/
inductive Refused (raw origin : String) : List Rule → CatalogError → Prop
  /-- The text is no catalog. -/
  | malformed : decode? raw = none → Refused raw origin [] (.malformed origin Toml.failureText)
  /-- An approver is at fault, and no rule has been looked at. -/
  | approver {c : Catalog} {fault : Violation} {others : List Violation} :
    decode? raw = some c → findings Approver.faults [] c.approvers = fault :: others →
      Refused raw origin [] fault.error
  /-- A rule is at fault, and those in front of it are not. -/
  | rule {c : Catalog} {front back : List Rule} {rule : Rule} {fault : Violation}
    {others : List Violation} :
    decode? raw = some c → findings Approver.faults [] c.approvers = [] →
      c.configuration.rules = front ++ rule :: back → findings (Rule.faults false) [] front = [] →
      rule.faults false front = fault :: others → Refused raw origin front fault.error

/-- What is refused as a whole has a first entry that is refused. -/
theorem exists_of_findings_eq_cons {α β : Type} {judge : List α → α → List β} {front xs : List α}
    {y : β} {ys : List β} (h : findings judge front xs = y :: ys) :
    ∃ before x after others, xs = before ++ x :: after ∧ findings judge front before = [] ∧
      judge (front ++ before) x = y :: others := by
  induction xs generalizing front with
  | nil => cases h
  | cons x xs ih =>
      rw [findings] at h
      cases hx : judge front x with
      | nil =>
          rw [hx, List.nil_append] at h
          obtain ⟨before, z, after, others, rfl, hbefore, hz⟩ := ih h
          refine ⟨x :: before, z, after, others, rfl, ?_, ?_⟩
          · rw [findings, hx, hbefore, List.append_nil]
          · rwa [List.append_assoc, List.singleton_append] at hz
      | cons first others =>
          rw [hx, List.cons_append, List.cons.injEq] at h
          refine ⟨[], x, xs, others, rfl, rfl, ?_⟩
          rw [List.append_nil, hx, h.1]

/-- What a lenient reader accepts, a strict one refuses for the first condition it minds. -/
theorem fst_parse_true_of_faults_false (hdecode : decode? raw = some c)
    (h : c.faults false = []) :
    ((parse raw origin true).run j).1
      = (c.configuration.rules.findSome? Rule.strictFault?).elim (.ok c)
          fun fault => .error fault.error := by
  rw [faults, List.append_eq_nil_iff] at h
  rw [fst_parse_of_some hdecode, faults, h.1, List.nil_append, Rule.findings_true h.2,
    Rule.head?_flatMap_conditionFaults]

/-- **What a lenient reader refuses, a strict one refuses too: for the same reason, or for a
condition of a rule that came before.** -/
theorem exists_refused {e : CatalogError} (h : ((parse raw origin false).run j).1 = .error e) :
    ∃ front, Refused raw origin front e ∧ ((parse raw origin true).run j).1
      = .error ((front.findSome? Rule.strictFault?).elim e Violation.error) := by
  cases hdecode : decode? raw with
  | none =>
      rw [parse_run_of_none hdecode] at h
      cases h
      exact ⟨[], .malformed hdecode, by rw [parse_run_of_none hdecode]; rfl⟩
  | some c =>
      rw [fst_parse_of_some hdecode] at h
      cases happrovers : findings Approver.faults [] c.approvers with
      | cons fault others =>
          rw [faults, happrovers] at h
          cases h
          refine ⟨[], .approver hdecode happrovers, ?_⟩
          rw [fst_parse_of_some hdecode, faults, happrovers]
          rfl
      | nil =>
          rw [faults, happrovers, List.nil_append] at h
          cases hrules : findings (Rule.faults false) [] c.configuration.rules with
          | nil =>
              rw [hrules] at h
              cases h
          | cons fault others =>
              rw [hrules] at h
              cases h
              obtain ⟨front, rule, back, rest, hsplit, hfront, hrule⟩ :=
                exists_of_findings_eq_cons hrules
              rw [List.nil_append] at hrule
              refine ⟨front, .rule hdecode happrovers hsplit hfront hrule, ?_⟩
              -- The strict reader sees the conditions in front, and then the same fault.
              rw [fst_parse_of_some hdecode, faults, happrovers, hsplit, List.nil_append,
                findings_append, Rule.findings_true hfront, List.head?_append,
                Rule.head?_flatMap_conditionFaults, findings, List.nil_append,
                Rule.faults_true, hrule]
              cases front.findSome? Rule.strictFault? <;> rfl

/--
**A strict reader refuses just what a lenient one warns of.**

What a strict reader accepts, a lenient one reads in the same way and with the same
warnings.  A lenient reader who accepts a catalog warns once of each rule whose condition
orders departments, in the order of the rules; a strict reader accepts that catalog if
there is no such warning, and otherwise names the rule of the first one with the same
complaint.  A text that a lenient reader refuses is refused by a strict one, and only a
condition of a rule in front of the one at fault makes a difference to the reason.
-/
theorem strict_refuses_what_lenient_warns_of (raw origin : String) (j : Journal) :
    let strictly := (parse raw origin true).run j
    let leniently := (parse raw origin false).run j
    (∀ c, strictly.1 = .ok c → leniently = strictly) ∧
    (∀ c, leniently.1 = .ok c → ∃ told, leniently.2 = j.extend told [] ∧
      told.filter (·.isUnsatisfiable) = c.configuration.rules.filterMap Rule.conditionWarning? ∧
      (strictly.1 = .ok c ↔ told.filter (·.isUnsatisfiable) = []) ∧
      ∀ warned others, told.filter (·.isUnsatisfiable) = warned :: others →
        ∃ rule ∈ c.configuration.rules, ∃ complaint,
          rule.condition.firstUnordered = some complaint ∧
          warned = unsatisfiableEvent rule complaint ∧
          strictly.1 = .error (Violation.unorderedComparison rule.id complaint).error) ∧
    (∀ e, leniently.1 = .error e → ∃ front, Refused raw origin front e ∧
      strictly.1 = .error ((front.findSome? Rule.strictFault?).elim e Violation.error)) := by
  intro strictly leniently
  refine ⟨?_, ?_, fun e h => exists_refused h⟩
  · intro c h
    obtain ⟨hdecode, hwell, hleft⟩ := parse_run_eq_ok_iff.1 (Prod.ext h rfl : strictly = (.ok c, _))
    refine (parse_run_eq_ok_iff.2 ⟨hdecode, hwell.lenient, hleft⟩).trans ?_
    exact Prod.ext h.symm rfl
  · intro c h
    obtain ⟨hdecode, hwell, hleft⟩ := parse_run_eq_ok_iff.1 (Prod.ext h rfl : leniently = (.ok c, _))
    have hstrictly : strictly.1 = _ :=
      fst_parse_true_of_faults_false hdecode (faults_eq_nil_iff.2 hwell)
    have hwarned := Rule.filter_isUnsatisfiable_flatMap c.approvers c.configuration.rules
    refine ⟨_, hleft, hwarned, ?_, ?_⟩
    · rw [hwarned, hstrictly, List.filterMap_eq_nil_iff]
      simp only [← Rule.strictFault?_eq_none_iff]
      rw [← List.findSome?_eq_none_iff]
      cases c.configuration.rules.findSome? Rule.strictFault? with
      | none => exact iff_of_true rfl rfl
      | some fault => exact iff_of_false (fun h => by cases h) (fun h => by cases h)
    · intro warned others hfirst
      rw [hwarned] at hfirst
      obtain ⟨rule, hrule, complaint, hcomplaint, hevent, hnamed⟩ :=
        Rule.exists_of_head?_filterMap (List.head?_eq_some_iff.2 ⟨others, hfirst⟩)
      refine ⟨rule, hrule, complaint, hcomplaint, hevent, ?_⟩
      rw [hstrictly, hnamed]
      rfl

end Catalog

end InvoiceApproval
