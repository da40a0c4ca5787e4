/-
What is wrong with a catalog, and what is said about it.

`Catalog.faults` lists everything that is wrong with a catalog, in the order in which a
person who reads the file comes to it: the approvers before the rules, the entries of
either in their order, and of a rule first its id, then its name, then its condition.  An
entry is judged by itself and by the entries in front of it, which may have taken its id.
The list is empty exactly if the catalog is well formed (`faults_eq_nil_iff`), which is
said without any order.

The review makes no such list.  It goes through the entries with the ids that it has seen,
and ends at the first thing that it cannot accept; the warnings that it has given until then
stay given.  `review_run` says what comes of it in one equation: the verdict is the head of
the list of faults, and the warnings are those about the rules in front of the first one
that is at fault.  Whatever else is said about reading catalogs is read off this.
-/
import InvoiceApproval.Proofs.Catalog.Review
import InvoiceApproval.Proofs.Leaves

namespace InvoiceApproval

/-! ### Judging the entries of a list -/

section

variable {α β : Type}

/-- What is found in the entries of a list, each judged with those in front of it. -/
def findings (judge : List α → α → List β) (front : List α) : List α → List β
  | [] => []
  | x :: xs => judge front x ++ findings judge (front ++ [x]) xs

theorem findings_append (judge : List α → α → List β) (front xs ys : List α) :
    findings judge front (xs ++ ys)
      = findings judge front xs ++ findings judge (front ++ xs) ys := by
  induction xs generalizing front with
  | nil => simp [findings]
  | cons x xs ih =>
      rw [List.cons_append, findings, findings, ih, List.append_assoc, List.append_assoc,
        List.singleton_append]

/-- **A judge who looks at an entry and at whether its key is taken finds nothing exactly if
the entries are sound and their keys are all different.** -/
theorem findings_eq_nil_iff {κ : Type} {judge : List α → α → List β} {key : α → κ}
    {sound : α → Prop} (h : ∀ front x, judge front x = [] ↔ key x ∉ front.map key ∧ sound x)
    (front xs : List α) :
    findings judge front xs = []
      ↔ (∀ x ∈ xs, key x ∉ front.map key ∧ sound x) ∧ (xs.map key).Nodup := by
  induction xs generalizing front with
  | nil => simp [findings]
  | cons x xs ih =>
      rw [findings, List.append_eq_nil_iff, h, ih, List.map_cons, List.nodup_cons,
        List.forall_mem_cons]
      have hfresh : key x ∉ xs.map key ↔ ∀ y ∈ xs, key y ≠ key x := by simp [List.mem_map]
      simp only [List.map_append, List.mem_append, List.map_cons, List.map_nil,
        List.mem_singleton, not_or, hfresh]
      constructor
      · rintro ⟨hx, hall, hnodup⟩
        exact ⟨⟨hx, fun y hy => ⟨(hall y hy).1.1, (hall y hy).2⟩⟩,
          fun y hy => (hall y hy).1.2, hnodup⟩
      · rintro ⟨⟨hx, hall⟩, hnew, hnodup⟩
        exact ⟨hx, fun y hy => ⟨⟨(hall y hy).1, hnew y hy⟩, (hall y hy).2⟩, hnodup⟩

end

/-! ### Faults -/

/-- What is wrong with an approver, given the approvers in front. -/
def Approver.faults (front : List Approver) (a : Approver) : List Violation :=
  (if Text.isBlankText a.id then [.blankApproverId] else [])
    ++ (if a.id ∈ front.map (·.id) then [.repeatedApproverId a.id] else [])

/-- What is wrong with the condition of a rule, leaf by leaf. -/
def Rule.conditionFaults (rule : Rule) : List Violation :=
  rule.condition.complaints.map (.unorderedComparison rule.id)

/-- What is wrong with a rule, given the rules in front.  Its condition counts only for a
strict reader. -/
def Rule.faults (strict : Bool) (front : List Rule) (rule : Rule) : List Violation :=
  (if rule.id ∈ front.map (·.id) then [.repeatedRuleId rule.id] else [])
    ++ (if Text.isBlankText rule.name then [.unnamedRule rule.id] else [])
    ++ (if strict then rule.conditionFaults else [])

theorem Approver.faults_eq_nil_iff (front : List Approver) (a : Approver) :
    a.faults front = [] ↔ a.id ∉ front.map (·.id) ∧ Text.isBlankText a.id = false := by
  unfold faults
  rw [List.append_eq_nil_iff, and_comm]
  refine and_congr ?_ ?_
  · simp
  · simp

theorem Rule.conditionFaults_eq_nil_iff {rule : Rule} :
    rule.conditionFaults = [] ↔ ¬ rule.condition.OrdersDepartments := by
  rw [conditionFaults, List.map_eq_nil_iff, Condition.complaints_eq_nil_iff]

theorem Rule.faults_eq_nil_iff (strict : Bool) (front : List Rule) (rule : Rule) :
    rule.faults strict front = [] ↔ rule.id ∉ front.map (·.id) ∧
      Text.isBlankText rule.name = false ∧ (strict = true → ¬ rule.condition.OrdersDepartments) := by
  rw [faults, List.append_eq_nil_iff, List.append_eq_nil_iff, and_assoc, ← conditionFaults_eq_nil_iff]
  refine and_congr ?_ (and_congr ?_ ?_)
  · simp
  · simp
  · simp

/-! ### Warnings -/

namespace Rule

/-- Whether no approver has this id. -/
def isUnknown (approvers : List Approver) (id : String) : Bool := !approvers.any (·.id == id)

/-- The warnings about the ids on a rule that no approver has, one for each entry. -/
def unknownWarnings (approvers : List Approver) (rule : Rule) : List Event :=
  (rule.approverIds.filter (isUnknown approvers)).map (Catalog.unknownApproverEvent rule)

/-- The warning about the condition of a rule, if it orders departments. -/
def conditionWarning? (rule : Rule) : Option Event :=
  rule.condition.firstUnordered.map (Catalog.unsatisfiableEvent rule)

/-- The warnings about a rule: first about its condition, then about its approvers. -/
def warnings (approvers : List Approver) (rule : Rule) : List Event :=
  rule.conditionWarning?.toList ++ rule.unknownWarnings approvers

end Rule

/-! ### Catalogs -/

namespace Catalog

/-- Everything that is wrong with a catalog: the approvers first, then the rules, each in
their order. -/
def faults (strict : Bool) (c : Catalog) : List Violation :=
  findings Approver.faults [] c.approvers ++ findings (Rule.faults strict) [] c.configuration.rules

/-- A catalog that can be used. -/
structure WellFormed (strict : Bool) (c : Catalog) : Prop where
  approvers_identified : ∀ a ∈ c.approvers, Text.isBlankText a.id = false
  approvers_distinct : (c.approvers.map (·.id)).Nodup
  rules_distinct : (c.configuration.rules.map (·.id)).Nodup
  rules_named : ∀ rule ∈ c.configuration.rules, Text.isBlankText rule.name = false
  /-- A strict reader accepts no condition that orders departments. -/
  rules_satisfiable : strict = true →
    ∀ rule ∈ c.configuration.rules, ¬ rule.condition.OrdersDepartments

/-- **Nothing is wrong with a catalog exactly if it is well formed.** -/
theorem faults_eq_nil_iff {strict : Bool} {c : Catalog} :
    c.faults strict = [] ↔ WellFormed strict c := by
  rw [faults, List.append_eq_nil_iff, findings_eq_nil_iff Approver.faults_eq_nil_iff,
    findings_eq_nil_iff (Rule.faults_eq_nil_iff strict)]
  constructor
  · rintro ⟨⟨happrovers, hids⟩, hrules, hruleIds⟩
    exact ⟨fun a ha => (happrovers a ha).2, hids, hruleIds, fun rule hr => (hrules rule hr).2.1,
      fun hstrict rule hr => (hrules rule hr).2.2 hstrict⟩
  · intro h
    exact ⟨⟨fun a ha => ⟨List.not_mem_nil, h.approvers_identified a ha⟩, h.approvers_distinct⟩,
      fun rule hr => ⟨List.not_mem_nil, h.rules_named rule hr,
        fun hstrict => h.rules_satisfiable hstrict rule hr⟩, h.rules_distinct⟩

/-- What is well formed for a strict reader is so for a lenient one. -/
theorem WellFormed.lenient {strict : Bool} {c : Catalog} (h : WellFormed strict c) :
    WellFormed false c :=
  { h with rules_satisfiable := fun hstrict => by cases hstrict }

/-- Faults as a verdict: of all of them the first one is told. -/
def verdict : List Violation → Except Violation Unit
  | [] => .ok ()
  | fault :: _ => .error fault

theorem reviewApprovers_eq_verdict {seen : List String} {front : List Approver}
    (h : ∀ id, id ∈ seen ↔ id ∈ front.map (·.id)) (as : List Approver) :
    reviewApprovers seen as = verdict (findings Approver.faults front as) := by
  induction as generalizing seen front with
  | nil => rfl
  | cons a as ih =>
      rw [reviewApprovers, findings]
      by_cases hblank : Text.isBlankText a.id = true
      · rw [if_pos hblank, Approver.faults, if_pos hblank]
        rfl
      by_cases hseen : a.id ∈ seen
      · rw [if_neg hblank, if_pos hseen, Approver.faults, if_neg hblank, if_pos ((h _).1 hseen)]
        rfl
      · have hnone : a.faults front = [] :=
          (Approver.faults_eq_nil_iff front a).2 ⟨mt (h _).2 hseen, by simpa using hblank⟩
        rw [if_neg hblank, if_neg hseen, hnone, List.nil_append]
        refine ih ?_
        intro id
        simp [h, or_comm]

theorem reviewRule_eq_verdict {seen : List String} {front : List Rule}
    (h : ∀ id, id ∈ seen ↔ id ∈ front.map (·.id)) (strict : Bool) (approvers : List Approver)
    (rule : Rule) :
    reviewRule strict approvers seen rule
      = (verdict (rule.faults strict front)).map fun _ => rule.warnings approvers := by
  rw [reviewRule, Rule.faults]
  by_cases hseen : rule.id ∈ seen
  · rw [if_pos hseen, if_pos ((h _).1 hseen)]
    rfl
  by_cases hblank : Text.isBlankText rule.name = true
  · rw [if_neg hseen, if_pos hblank, if_neg (mt (h _).2 hseen), if_pos hblank]
    rfl
  rw [if_neg hseen, if_neg hblank, if_neg (mt (h _).2 hseen), if_neg hblank]
  -- Only the condition is left, and the complaint about it heads its faults.
  have hfirst := rule.condition.firstUnordered_eq_head?
  cases hcomplaints : rule.condition.complaints with
  | nil =>
      rw [hcomplaints, List.head?_nil] at hfirst
      have hfaults : rule.conditionFaults = [] := by rw [Rule.conditionFaults, hcomplaints]; rfl
      have hwarnings : rule.warnings approvers = rule.unknownWarnings approvers := by
        rw [Rule.warnings, Rule.conditionWarning?, hfirst]
        rfl
      simp only [hfaults, hwarnings, hfirst, ite_self]
      rfl
  | cons complaint others =>
      rw [hcomplaints, List.head?_cons] at hfirst
      have hfaults : rule.conditionFaults = .unorderedComparison rule.id complaint ::
          others.map (.unorderedComparison rule.id) := by
        rw [Rule.conditionFaults, hcomplaints]
        rfl
      have hwarnings : rule.warnings approvers
          = unsatisfiableEvent rule complaint :: rule.unknownWarnings approvers := by
        rw [Rule.warnings, Rule.conditionWarning?, hfirst]
        rfl
      simp only [hfaults, hwarnings, hfirst]
      cases strict <;> rfl

/-- The rules in front of the first one that is at fault. -/
def passed (strict : Bool) (front : List Rule) : List Rule → List Rule
  | [] => []
  | rule :: rules =>
    if rule.faults strict front = [] then rule :: passed strict (front ++ [rule]) rules else []

/-- If no rule is at fault, all of them pass. -/
theorem passed_of_findings_eq_nil {strict : Bool} {front rules : List Rule}
    (h : findings (Rule.faults strict) front rules = []) : passed strict front rules = rules := by
  induction rules generalizing front with
  | nil => rfl
  | cons rule rules ih =>
      rw [findings, List.append_eq_nil_iff] at h
      rw [passed, if_pos h.1, ih h.2]

/-- The warnings that the review of a catalog gives before it ends. -/
def told (strict : Bool) (c : Catalog) : List Event :=
  if findings Approver.faults [] c.approvers = [] then
    (passed strict [] c.configuration.rules).flatMap (Rule.warnings c.approvers)
  else []

theorem told_of_faults_eq_nil {strict : Bool} {c : Catalog} (h : c.faults strict = []) :
    c.told strict = c.configuration.rules.flatMap (Rule.warnings c.approvers) := by
  rw [faults, List.append_eq_nil_iff] at h
  rw [told, if_pos h.1, passed_of_findings_eq_nil h.2]

/-! ### The review, taken apart -/

theorem refuse_run {α : Type} (x : Except Violation α) (j : Journal) :
    (refuse x).run j = (x.mapError Violation.error, j) := rfl

theorem reviewRules_run (strict : Bool) (approvers : List Approver) (rules : List Rule) :
    ∀ (seen : List String) (front : List Rule) (j : Journal),
      (∀ id, id ∈ seen ↔ id ∈ front.map (·.id)) →
      (reviewRules strict approvers seen rules).run j
        = ((verdict (findings (Rule.faults strict) front rules)).mapError Violation.error,
            j.extend ((passed strict front rules).flatMap (Rule.warnings approvers)) []) := by
  induction rules with
  | nil =>
      intro seen front j _
      exact congrArg (Prod.mk _) j.extend_nil.symm
  | cons rule rules ih =>
      intro seen front j hseen
      rw [reviewRules, Desk.run_bind, refuse_run, reviewRule_eq_verdict hseen, findings, passed]
      cases hfaults : rule.faults strict front with
      | nil =>
          have hnext : ∀ id, id ∈ rule.id :: seen ↔ id ∈ (front ++ [rule]).map (·.id) := by
            intro id
            simp [hseen, or_comm]
          show (tellAll (rule.warnings approvers)
            >>= fun _ => reviewRules strict approvers (rule.id :: seen) rules : Desk Unit).run j = _
          rw [Desk.run_lift_bind, tellAll_run, ih _ _ _ hnext, if_pos rfl, List.flatMap_cons,
            Journal.extend_extend, List.nil_append, List.nil_append]
      | cons fault others =>
          rw [if_neg (List.cons_ne_nil _ _)]
          exact congrArg (Prod.mk _) j.extend_nil.symm

/-- **The review tells the first fault, and the warnings that come before it.** -/
theorem review_run (strict : Bool) (c : Catalog) (j : Journal) :
    (c.review strict).run j
      = ((verdict (c.faults strict)).mapError Violation.error, j.extend (c.told strict) []) := by
  have hnone : ∀ id, id ∈ [] ↔ id ∈ ([] : List Approver).map (·.id) := by simp
  have hnone' : ∀ id, id ∈ [] ↔ id ∈ ([] : List Rule).map (·.id) := by simp
  rw [review, Desk.run_bind, refuse_run, reviewApprovers_eq_verdict hnone, faults, told]
  cases findings Approver.faults [] c.approvers with
  | nil => exact reviewRules_run strict c.approvers c.configuration.rules [] [] j hnone'
  | cons fault others => exact congrArg (Prod.mk _) j.extend_nil.symm

theorem parse_run_of_none {raw : String} (h : decode? raw = none) (origin : String)
    (strict : Bool) (j : Journal) :
    (parse raw origin strict).run j = (.error (.malformed origin Toml.failureText), j) := by
  rw [parse, h]
  rfl

theorem parse_run_of_some {raw : String} {c : Catalog} (h : decode? raw = some c)
    (origin : String) (strict : Bool) (j : Journal) :
    (parse raw origin strict).run j
      = (((verdict (c.faults strict)).mapError Violation.error).map fun _ => c,
          j.extend (c.told strict) []) := by
  rw [parse, h]
  show (c.review strict >>= fun _ => pure c : Desk Catalog).run j = _
  rw [Desk.run_bind, review_run]
  cases verdict (c.faults strict) <;> rfl

/-- The answer to a text that is a catalog hangs on the first fault. -/
theorem fst_parse_of_some {raw origin : String} {j : Journal} {c : Catalog}
    (h : decode? raw = some c) (strict : Bool) :
    ((parse raw origin strict).run j).1
      = (c.faults strict).head?.elim (.ok c) fun fault => .error fault.error := by
  rw [parse_run_of_some h]
  cases c.faults strict <;> rfl

/-- **A text is read as a catalog exactly if it is one and is well formed, and then every rule
has been looked at and warned of.** -/
theorem parse_run_eq_ok_iff {raw origin : String} {strict : Bool} {j left : Journal}
    {c : Catalog} :
    (parse raw origin strict).run j = (.ok c, left) ↔ decode? raw = some c ∧ WellFormed strict c ∧
      left = j.extend (c.configuration.rules.flatMap (Rule.warnings c.approvers)) [] := by
  rw [parse_eq_ok_iff, review_run, ← faults_eq_nil_iff]
  refine and_congr_right fun _ => ?_
  cases hfaults : c.faults strict with
  | nil =>
      rw [told_of_faults_eq_nil hfaults, eq_self_iff_true, true_and]
      constructor
      · intro h
        exact (congrArg Prod.snd h).symm
      · rintro rfl
        rfl
  | cons fault others =>
      constructor
      · intro h
        cases congrArg Prod.fst h
      · rintro ⟨h, -⟩
        cases h

/-! ### Reading a catalog -/

/-- A document says what is in a catalog.  Where it does not speak of a part, the built-in
catalog does. -/
structure WrittenIn (document : List (String × Data)) (c : Catalog) : Prop where
  id : ∃ said, (Data.Row.named document).Says 0 "id" Data.text? said ∧
    c.configuration.id = said.getD Seed.configurationId
  name : ∃ said, (Data.Row.named document).Says 1 "name" Data.text? said ∧
    c.configuration.name = said.getD Seed.configurationName
  approvers : ∃ said, (Data.Row.named document).Says 2 "approvers"
      (fun d => d.list?.bind (·.mapM (Approver.ofData? .reference))) said ∧
    c.approvers = said.getD Seed.approvers
  rules : ∃ said, (Data.Row.named document).Says 3 "rules"
      (fun d => d.list?.bind (·.mapM Rule.ofEntry?)) said ∧
    c.configuration.rules = said.getD Seed.rules

/-- **A document holds a catalog exactly if it names nothing that a catalog does not have, and
every part that it speaks of can be read.** -/
theorem ofData?_eq_some_iff {document : List (String × Data)} {c : Catalog} :
    ofData? (.record document) = some c
      ↔ (∀ f ∈ document, f.1 ∈ fieldNames) ∧ c.WrittenIn document := by
  simp only [ofData?, Option.bind_eq_bind, Option.bind_eq_some_iff, Data.Row.of?_reference_iff]
  constructor
  · rintro ⟨row, ⟨hknown, rfl⟩, id, hid, name, hname, approvers, happrovers, rules, hrules, h⟩
    cases h
    exact ⟨hknown, ⟨id, Data.Row.says_of_optional hid, rfl⟩,
      ⟨name, Data.Row.says_of_optional hname, rfl⟩,
      ⟨approvers, Data.Row.says_of_optional happrovers, rfl⟩,
      ⟨rules, Data.Row.says_of_optional hrules, rfl⟩⟩
  · obtain ⟨⟨id, name, rules⟩, approvers⟩ := c
    rintro ⟨hknown, ⟨saidId, hid, rfl⟩, ⟨saidName, hname, rfl⟩, ⟨saidApprovers, happrovers, rfl⟩,
      ⟨saidRules, hrules, rfl⟩⟩
    exact ⟨_, ⟨hknown, rfl⟩, saidId, Data.Row.optional_named_iff.2 hid, saidName,
      Data.Row.optional_named_iff.2 hname, saidApprovers, Data.Row.optional_named_iff.2 happrovers,
      saidRules, Data.Row.optional_named_iff.2 hrules, rfl⟩

/-- A text holds a catalog exactly if it is TOML and its document does. -/
theorem decode?_eq_some_iff {raw : String} {c : Catalog} :
    decode? raw = some c ↔ ∃ document, Toml.read? raw = some document ∧
      (∀ f ∈ document, f.1 ∈ fieldNames) ∧ c.WrittenIn document := by
  unfold decode?
  rw [Option.bind_eq_bind, Option.bind_eq_some_iff]
  exact exists_congr fun document => and_congr_right fun _ => ofData?_eq_some_iff

/--
**Exactly the well-formed catalogs are accepted, and of any other the first fault is told.**

A text that is no catalog is refused with the place that it came from: it is not TOML, or names
what a catalog does not have, or a part of it cannot be read.  Any other text says what is in a
catalog, and that catalog is the answer if it is well formed.  If it is not, the answer is the
wording of the first of its faults.
-/
theorem parse_reports_first_fault (raw origin : String) (strict : Bool) (j : Journal) :
    let result := ((parse raw origin strict).run j).1
    match decode? raw with
    | none =>
      (∀ document (c : Catalog), Toml.read? raw = some document →
        (∀ f ∈ document, f.1 ∈ fieldNames) → ¬ c.WrittenIn document) ∧
      result = .error (.malformed origin Toml.failureText)
    | some c =>
      (∃ document, Toml.read? raw = some document ∧ (∀ f ∈ document, f.1 ∈ fieldNames) ∧
        c.WrittenIn document) ∧
      (result = .ok c ↔ WellFormed strict c) ∧
      (¬ WellFormed strict c → ∃ fault others, c.faults strict = fault :: others ∧
        result = .error (.invalid fault.message)) := by
  intro result
  cases hdecode : decode? raw with
  | none =>
      refine ⟨fun document c hread hknown hwritten => ?_,
        congrArg Prod.fst (parse_run_of_none hdecode origin strict j)⟩
      have hsome := decode?_eq_some_iff.2 ⟨document, hread, hknown, hwritten⟩
      exact nomatch hdecode.symm.trans hsome
  | some c =>
      have hresult : result = _ := fst_parse_of_some hdecode strict
      refine ⟨decode?_eq_some_iff.1 hdecode, ?_, ?_⟩
      · rw [hresult, ← faults_eq_nil_iff]
        cases c.faults strict with
        | nil => exact iff_of_true rfl rfl
        | cons fault others => exact iff_of_false (fun h => by cases h) (List.cons_ne_nil _ _)
      · intro hmalformed
        rw [← faults_eq_nil_iff] at hmalformed
        obtain ⟨fault, others, hfaults⟩ := List.exists_cons_of_ne_nil hmalformed
        refine ⟨fault, others, hfaults, ?_⟩
        rw [hresult, hfaults]
        rfl

end Catalog

end InvoiceApproval
