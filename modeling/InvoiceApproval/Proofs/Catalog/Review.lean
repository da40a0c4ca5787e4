/-
What a reviewed catalog promises.

A text is read as a catalog if it is written as one and the review accepts it
(`parse_eq_ok_iff`).  The review lets no two approvers have one id
(`reviewApprovers_eq_ok_iff`), so the directory made of the catalog holds just its
approvers, in their places, and an id stands for one of them.

The review does not look at how often a rule names an approver.  A rule that names one
twice is accepted and sends two notices.  What holds is that an approver gets at most as
many notices as the rule that decides has entries for that approver, and so nobody gets
two if that rule has no entry twice.
-/
import InvoiceApproval.Catalog
import InvoiceApproval.Proofs.Precedence
import InvoiceApproval.Proofs.Selection

namespace InvoiceApproval

namespace Catalog

/-! ### What has been reviewed -/

/-- **Approvers pass the review exactly if their ids are not blank, not taken, and all
different.** -/
theorem reviewApprovers_eq_ok_iff {seen : List String} {as : List Approver} :
    reviewApprovers seen as = .ok () ↔
      (∀ a ∈ as, Text.isBlankText a.id = false ∧ a.id ∉ seen) ∧ (as.map (·.id)).Nodup := by
  induction as generalizing seen with
  | nil => simp [reviewApprovers]
  | cons a as ih =>
      rw [reviewApprovers]
      by_cases hblank : Text.isBlankText a.id = true
      · rw [if_pos hblank]
        simp [hblank]
      by_cases hseen : a.id ∈ seen
      · rw [if_neg hblank, if_pos hseen]
        simp [hseen]
      -- From here on the id counts as taken, so what follows must not have it.
      rw [if_neg hblank, if_neg hseen, ih, List.map_cons, List.nodup_cons, List.forall_mem_cons]
      have hfresh : a.id ∉ as.map (·.id) ↔ ∀ b ∈ as, b.id ≠ a.id := by
        simp [List.mem_map]
      simp only [List.mem_cons, not_or, hfresh]
      constructor
      · rintro ⟨hall, hnodup⟩
        exact ⟨⟨⟨by simpa using hblank, hseen⟩, fun b hb => ⟨(hall b hb).1, (hall b hb).2.2⟩⟩,
          fun b hb => (hall b hb).2.1, hnodup⟩
      · rintro ⟨⟨-, hall⟩, hnew, hnodup⟩
        exact ⟨fun b hb => ⟨(hall b hb).1, hnew b hb, (hall b hb).2⟩, hnodup⟩

variable {raw origin : String} {strict : Bool} {j left : Journal} {c : Catalog}

/-- A text is read as a catalog exactly if it is one and the review accepts it. -/
theorem parse_eq_ok_iff : (parse raw origin strict).run j = (.ok c, left) ↔
    decode? raw = some c ∧ (c.review strict).run j = (.ok (), left) := by
  unfold parse
  cases decode? raw with
  | none =>
      constructor
      · intro h
        cases h
      · rintro ⟨h, -⟩
        cases h
  | some read =>
      dsimp only
      rw [Desk.run_bind, Option.some.injEq]
      constructor
      · intro h
        cases hreview : (read.review strict).run j with
        | mk result after =>
            rw [hreview] at h
            cases result with
            | error cause => cases h
            | ok _ =>
                cases h
                exact ⟨rfl, hreview⟩
      · rintro ⟨rfl, h⟩
        rw [h]
        rfl

theorem reviewApprovers_of_review (h : (c.review strict).run j = (.ok (), left)) :
    reviewApprovers [] c.approvers = .ok () := by
  unfold review at h
  rw [Desk.run_bind] at h
  cases hreview : reviewApprovers [] c.approvers with
  | ok _ => rfl
  | error cause =>
      rw [hreview] at h
      cases h

/-- The approvers of a catalog that has been read have different ids. -/
theorem ids_nodup_of_parse (h : (parse raw origin strict).run j = (.ok c, left)) :
    (c.approvers.map (·.id)).Nodup :=
  (reviewApprovers_eq_ok_iff.1 (reviewApprovers_of_review (parse_eq_ok_iff.1 h).2)).2

/-! ### Who is told how often -/

/-- How often a notice goes to the approver of an id. -/
def noticesTo (id : String) (sent : List Notice) : Nat := (sent.map (·.approverId)).count id

theorem noticesTo_about (id : String) (r : ApprovalRequest) (selected : List Approver) :
    noticesTo id (selected.map (Notice.about r)) = (selected.map (·.id)).count id := by
  unfold noticesTo
  rw [List.map_map]
  rfl

theorem map_id_chosen_sublist_of_isFirst {d : Directory} {rules : List Rule}
    {r : ApprovalRequest} {rule : Rule} (h : Rule.IsFirst rules r rule) :
    ((d.chosen r (Rule.matching rules r)).map (·.id)).Sublist rule.approverIds := by
  obtain ⟨rest, hmatching⟩ := List.head?_eq_some_iff.1 (Rule.head?_matching_eq_some_iff.2 h)
  rw [hmatching]
  exact d.map_id_chosen_sublist r rule rest

theorem nodup_map_id_chosen {d : Directory} {rules : List Rule} {r : ApprovalRequest}
    (h : ∀ rule, Rule.IsFirst rules r rule → rule.approverIds.Nodup) :
    ((d.chosen r (Rule.matching rules r)).map (·.id)).Nodup := by
  cases hmatching : Rule.matching rules r with
  | nil => exact List.nodup_nil
  | cons rule rest =>
      refine List.Nodup.sublist (d.map_id_chosen_sublist r rule rest) ?_
      exact h rule (Rule.isFirst_of_matching_cons hmatching)

/--
**Nobody gets more notices about an invoice than the rule that decides has entries.**

A run with a catalog that has been read selects approvers of the catalog, whose ids are all
different.  Each of them is selected and told at most as often as the first rule that holds
has his id, and if that rule has no id twice, those who are selected have different ids and
nobody is told twice.
-/
theorem notices_within_first_rule (h : (parse raw origin strict).run j = (.ok c, left))
    (r : ApprovalRequest) (k : Journal) :
    (c.approvers.map (·.id)).Nodup ∧
    ∃ o sent, ((c.engine .outbox).run r k).1 = .ok o ∧
      ((c.engine .outbox).run r k).2.outbox = k.outbox ++ sent ∧
      (∀ a ∈ o.selected, a ∈ c.approvers) ∧
      (∀ rule, Rule.IsFirst c.configuration.rules r rule → ∀ id,
        (o.selected.map (·.id)).count id ≤ rule.approverIds.count id ∧
          noticesTo id sent ≤ rule.approverIds.count id) ∧
      ((∀ rule, Rule.IsFirst c.configuration.rules r rule → rule.approverIds.Nodup) →
        (o.selected.map (·.id)).Nodup ∧ ∀ id, noticesTo id sent ≤ 1) := by
  have hids := ids_nodup_of_parse h
  obtain ⟨hresult, hsent⟩ := Engine.run_available c.configuration c.directory .outbox r k
  refine ⟨hids, _, _, hresult, hsent, ?_, ?_, ?_⟩
  · intro a ha
    have hmem := Directory.mem_of_mem_chosen ha
    rwa [directory, Directory.approvers_ofList hids] at hmem
  · intro rule hfirst id
    have hcount := (map_id_chosen_sublist_of_isFirst (d := c.directory) hfirst).count_le id
    exact ⟨hcount, Nat.le_trans (Nat.le_of_eq (noticesTo_about id r _)) hcount⟩
  · intro hrule
    have hnodup := nodup_map_id_chosen (d := c.directory) hrule
    refine ⟨hnodup, ?_⟩
    intro id
    exact Nat.le_trans (Nat.le_of_eq (noticesTo_about id r _))
      (List.nodup_iff_count.1 hnodup id)

/-- A catalog of one rule, which holds of every request and goes to these ids. -/
def ofOneRule (ids : List String) : Catalog :=
  ⟨⟨Seed.configurationId, Seed.configurationName,
    [⟨"all", "All", "", .all [], ids, 0, .unfiltered⟩]⟩, Seed.approvers⟩

/-- That catalog as a text, with the ids as they stand between brackets. -/
def oneRuleText (ids : String) : String :=
  "[[rules]]\nid = \"all\"\nname = \"All\"\napprover_ids = [" ++ ids
    ++ "]\ncondition = \x7b type = \"and\", conditions = [] \x7d\n"

theorem matching_ofOneRule (ids : List String) (r : ApprovalRequest) :
    Rule.matching (ofOneRule ids).configuration.rules r = (ofOneRule ids).configuration.rules :=
  List.mergeSort_singleton _

/-- An invoice of five. -/
def smallInvoice : ApprovalRequest := ⟨.ofNat 5, .sales, false, rfl⟩

theorem notices_within_first_rule_distinct :
    (parse (oneRuleText "\"cfo\", \"ceo\"") "inline" true).run Journal.empty
        = (.ok (ofOneRule ["cfo", "ceo"]), Journal.empty) ∧
      (∀ rule, Rule.IsFirst (ofOneRule ["cfo", "ceo"]).configuration.rules smallInvoice rule →
        rule.approverIds.Nodup) ∧
      ∃ o sent,
        (((ofOneRule ["cfo", "ceo"]).engine .outbox).run smallInvoice Journal.empty).1 = .ok o ∧
        (((ofOneRule ["cfo", "ceo"]).engine .outbox).run smallInvoice Journal.empty).2.outbox
          = [] ++ sent ∧
        (o.selected.map (·.id)).Nodup ∧ ∀ id, noticesTo id sent ≤ 1 := by
  have hparse : (parse (oneRuleText "\"cfo\", \"ceo\"") "inline" true).run Journal.empty
      = (.ok (ofOneRule ["cfo", "ceo"]), Journal.empty) :=
    parse_eq_ok_iff.2 ⟨by decide +kernel, rfl⟩
  have hrule : ∀ rule, Rule.IsFirst (ofOneRule ["cfo", "ceo"]).configuration.rules smallInvoice rule →
      rule.approverIds.Nodup := by
    intro rule hfirst
    rw [List.mem_singleton.1 hfirst.mem]
    decide
  obtain ⟨-, o, sent, hresult, hsent, -, -, honce⟩ :=
    notices_within_first_rule hparse smallInvoice Journal.empty
  exact ⟨hparse, hrule, o, sent, hresult, hsent, honce hrule⟩

/-- A rule that names an approver twice is accepted, and selects and tells that approver
twice. -/
theorem repeated_id_told_twice :
    (parse (oneRuleText "\"cfo\", \"cfo\"") "inline" true).run Journal.empty
        = (.ok (ofOneRule ["cfo", "cfo"]), Journal.empty) ∧
      ∃ o, (((ofOneRule ["cfo", "cfo"]).engine .outbox).run smallInvoice Journal.empty).1 = .ok o ∧
        ¬ (o.selected.map (·.id)).Nodup ∧
        noticesTo "cfo"
          (((ofOneRule ["cfo", "cfo"]).engine .outbox).run smallInvoice Journal.empty).2.outbox
            = 2 := by
  have hparse : (parse (oneRuleText "\"cfo\", \"cfo\"") "inline" true).run Journal.empty
      = (.ok (ofOneRule ["cfo", "cfo"]), Journal.empty) :=
    parse_eq_ok_iff.2 ⟨by decide +kernel, rfl⟩
  obtain ⟨hresult, hsent⟩ := Engine.run_available (ofOneRule ["cfo", "cfo"]).configuration
    (ofOneRule ["cfo", "cfo"]).directory .outbox smallInvoice Journal.empty
  have hchosen : ((ofOneRule ["cfo", "cfo"]).directory.chosen smallInvoice
      (Rule.matching (ofOneRule ["cfo", "cfo"]).configuration.rules smallInvoice)).map (·.id)
        = ["cfo", "cfo"] := by
    rw [matching_ofOneRule]
    rfl
  refine ⟨hparse, _, hresult, ?_, ?_⟩
  · rw [hchosen]
    decide
  · refine (congrArg (noticesTo "cfo") hsent).trans ((noticesTo_about "cfo" _ _).trans ?_)
    rw [hchosen]
    rfl

end Catalog

end InvoiceApproval
