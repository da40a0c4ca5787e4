/-
What a run decides, and what it leaves behind.

`Engine.run` is one program on a journal, but two things are asked of it and they
have nothing to do with each other.  What it decides hangs on the stores and on the
request; the journal that it finds is not looked at.  What it leaves behind is that
journal with something added at the end.  `run_eq` takes the two apart, once, and
everything that is said about runs elsewhere is read off it.

A list of requests on one journal is then no more than its runs one by one:
`runAll_eq`.  The outbox is shared between them, and still no request can tell which
ones came before it.

Nobody is told anything before both stores have answered.  So a run that fails has
sent nothing, and there is no run that has told some of its approvers but not all.
-/
import InvoiceApproval.Workflow
import Mathlib

namespace InvoiceApproval

namespace Journal

/-- A journal with more events and more notices. -/
def extend (j : Journal) (events : List Event) (notices : List Notice) : Journal :=
  ⟨j.events ++ events, j.outbox ++ notices⟩

@[simp] theorem extend_nil (j : Journal) : j.extend [] [] = j := by simp [extend]

@[simp] theorem extend_extend (j : Journal) (e₁ e₂ : List Event) (n₁ n₂ : List Notice) :
    (j.extend e₁ n₁).extend e₂ n₂ = j.extend (e₁ ++ e₂) (n₁ ++ n₂) := by
  simp [extend]

@[simp] theorem extend_outbox (j : Journal) (es : List Event) (ns : List Notice) :
    (j.extend es ns).outbox = j.outbox ++ ns := rfl

theorem tell_eq_extend (j : Journal) (e : Event) : j.tell e = j.extend [e] [] := by
  simp [tell, extend]

theorem send_eq_extend (j : Journal) (n : Notice) : j.send n = j.extend [] [n] := by
  simp [send, extend]

end Journal

/-- Events that are told one after the other stand in the journal in that order. -/
theorem tellAll_run (es : List Event) : ∀ j : Journal, (tellAll es).run j = ((), j.extend es []) := by
  unfold tellAll
  induction es with
  | nil =>
      intro j
      exact congrArg (Prod.mk ()) j.extend_nil.symm
  | cons e es ih =>
      intro j
      show (es.forM tell).run (j.tell e) = _
      rw [ih, Journal.tell_eq_extend, Journal.extend_extend]
      rfl

/-- A step that may fail is followed by the next one only if it does not. -/
theorem Desk.run_bind {α β : Type} (x : Desk α) (f : α → Desk β) (j : Journal) :
    (x >>= f).run j = match x.run j with
      | (.ok a, left) => (f a).run left
      | (.error cause, left) => (.error cause, left) := by
  unfold ExceptT.run
  simp only [bind, ExceptT.bind, ExceptT.mk, StateT.bind]
  cases x j with
  | mk result left => cases result <;> rfl

/-- A step that cannot fail is followed by the next one. -/
theorem Desk.run_lift_bind {α β : Type} (x : StateM Journal α) (f : α → Desk β) (j : Journal) :
    ((x : Desk α) >>= f).run j = (f (x.run j).1).run (x.run j).2 := rfl

/-! ### Telling approvers -/

/-- Whether an event tells a notice on a channel. -/
def Event.isNotice (e : Event) : Bool := e.name == "notification.sent"

namespace Notifier

/-- The notices that a notifier puts into the outbox. -/
def notices (n : Notifier) (r : ApprovalRequest) (as : List Approver) : List Notice :=
  match n with
  | outbox => as.map (Notice.about r)
  | log _ => []

/-- The events that a notifier tells. -/
def events (n : Notifier) (r : ApprovalRequest) (as : List Approver) : List Event :=
  match n with
  | outbox => []
  | log channel => as.map fun a => (Notice.about r a).event channel

theorem notify_run (n : Notifier) (r : ApprovalRequest) (a : Approver) (j : Journal) :
    (n.notify r a).run j
      = (Notice.confirmation a, j.extend (n.events r [a]) (n.notices r [a])) := by
  cases n with
  | outbox =>
      show (Notice.confirmation a, j.send (Notice.about r a)) = _
      rw [Journal.send_eq_extend]
      rfl
  | log channel =>
      show (Notice.confirmation a, j.tell ((Notice.about r a).event channel)) = _
      rw [Journal.tell_eq_extend]
      rfl

theorem events_cons (n : Notifier) (r : ApprovalRequest) (a : Approver) (as : List Approver) :
    n.events r (a :: as) = n.events r [a] ++ n.events r as := by
  cases n <;> rfl

theorem notices_cons (n : Notifier) (r : ApprovalRequest) (a : Approver) (as : List Approver) :
    n.notices r (a :: as) = n.notices r [a] ++ n.notices r as := by
  cases n <;> rfl

/-- Every approver is confirmed, whichever way the notices go. -/
theorem notifyAll_run (n : Notifier) (r : ApprovalRequest) (as : List Approver) :
    ∀ j : Journal, (n.notifyAll r as).run j
      = (as.map Notice.confirmation, j.extend (n.events r as) (n.notices r as)) := by
  unfold notifyAll
  induction as with
  | nil =>
      intro j
      cases n <;> exact congrArg (Prod.mk []) j.extend_nil.symm
  | cons a as ih =>
      intro j
      rw [List.mapM_cons, StateT.run_bind, notify_run]
      show StateT.run (as.mapM (n.notify r) >>= fun cs => pure (Notice.confirmation a :: cs)) _ = _
      rw [StateT.run_bind, ih]
      show (Notice.confirmation a :: as.map Notice.confirmation, _) = _
      rw [Journal.extend_extend, ← events_cons, ← notices_cons, List.map_cons]

end Notifier

/-! ### Selecting approvers

The directory is asked for the first rule alone, and not at all if there is none.
-/

/-- The approvers that a request goes to. -/
def selection (directory : Source Directory) (r : ApprovalRequest) :
    List Rule → Except CatalogError (List Approver)
  | [] => .ok []
  | rule :: _ => directory.fetch.map fun d => rule.routing.route r (d.resolve rule.approverIds)

/-- The events told while they are selected. -/
def selectionEvents (directory : Source Directory) (r : ApprovalRequest) : List Rule → List Event
  | [] => [r.unmatchedEvent]
  | rule :: _ =>
    match directory with
    | .offline _ => []
    | .available d =>
      let resolved := d.resolve rule.approverIds
      if resolved.length < rule.approverIds.length then [rule.unresolvedEvent resolved] else []

theorem selectApprovers_run (directory : Source Directory) (r : ApprovalRequest)
    (matched : List Rule) (j : Journal) :
    (selectApprovers directory r matched).run j
      = (selection directory r matched, j.extend (selectionEvents directory r matched) []) := by
  cases matched with
  | nil =>
      show (Except.ok [], j.tell r.unmatchedEvent) = _
      rw [Journal.tell_eq_extend]
      rfl
  | cons rule rest =>
      cases directory with
      | offline reason => exact congrArg (Prod.mk _) j.extend_nil.symm
      | available d =>
          show ((do
              if (d.resolve rule.approverIds).length < rule.approverIds.length then
                tell (rule.unresolvedEvent (d.resolve rule.approverIds))
              return rule.routing.route r (d.resolve rule.approverIds)) : Desk _).run j = _
          by_cases h : (d.resolve rule.approverIds).length < rule.approverIds.length
          · rw [if_pos h]
            show (Except.ok (rule.routing.route r (d.resolve rule.approverIds)),
              j.tell (rule.unresolvedEvent (d.resolve rule.approverIds))) = _
            rw [Journal.tell_eq_extend]
            simp only [selection, selectionEvents, if_pos h]
            rfl
          · rw [if_neg h]
            show (Except.ok (rule.routing.route r (d.resolve rule.approverIds)), j) = _
            simp only [selection, selectionEvents, if_neg h, Journal.extend_nil]
            rfl

theorem Rule.mem_matching {rules : List Rule} {r : ApprovalRequest} {rule : Rule} :
    rule ∈ matching rules r ↔ rule ∈ rules ∧ rule.condition.holds r = true := by
  unfold matching
  rw [List.mem_mergeSort, List.mem_filter]

/-- Nothing matches exactly if no rule holds. -/
theorem Rule.matching_eq_nil_iff {rules : List Rule} {r : ApprovalRequest} :
    matching rules r = [] ↔ ∀ rule ∈ rules, rule.condition.holds r = false := by
  rw [List.eq_nil_iff_forall_not_mem]
  simp only [mem_matching, not_and, Bool.not_eq_true]

theorem selection_error_iff {directory : Source Directory} {r : ApprovalRequest}
    {matched : List Rule} {cause : CatalogError} :
    selection directory r matched = .error cause
      ↔ directory.fetch = .error cause ∧ matched ≠ [] := by
  cases matched with
  | nil => simp [selection]
  | cons rule rest => cases directory <;> simp [selection, Source.fetch, Except.map]

namespace Engine

/-! ### A run, taken apart -/

/-- What a run decides. -/
def decision (e : Engine) (r : ApprovalRequest) : Except CatalogError Outcome := do
  let configuration ← e.rules.fetch
  let matched := Rule.matching configuration.rules r
  let selected ← selection e.directory r matched
  return ⟨r, selected, selected.map Notice.confirmation, matched.map (·.name)⟩

/-- The notices that a run adds to the outbox. -/
def sent (e : Engine) (r : ApprovalRequest) : List Notice :=
  match e.decision r with
  | .ok o => e.notifier.notices r o.selected
  | .error _ => []

/-- The events that a run tells. -/
def told (e : Engine) (r : ApprovalRequest) : List Event :=
  r.startedEvent ::
    match e.rules with
    | .offline _ => []
    | .available c =>
      let matched := Rule.matching c.rules r
      c.matchedEvent matched :: (selectionEvents e.directory r matched
        ++ match selection e.directory r matched with
          | .ok selected => selectedEvent selected :: e.notifier.events r selected
          | .error _ => [])

/-- **A run decides what it decides on any journal, and adds to the journal it finds.** -/
theorem run_eq (e : Engine) (r : ApprovalRequest) (j : Journal) :
    e.run r j = (e.decision r, j.extend (e.told r) (e.sent r)) := by
  obtain ⟨rules, directory, notifier⟩ := e
  cases rules with
  | offline reason =>
      show (Except.error (CatalogError.unavailable reason), j.tell r.startedEvent) = _
      rw [Journal.tell_eq_extend]
      rfl
  | available c =>
      set matched := Rule.matching c.rules r with hmatched
      have hselect := selectApprovers_run directory r matched
        ((j.tell r.startedEvent).tell (c.matchedEvent matched))
      -- With rules at hand, what is told and what is sent both hang on who is selected.
      have hdecision : decision ⟨.available c, directory, notifier⟩ r
          = (selection directory r matched).map fun selected =>
            ⟨r, selected, selected.map Notice.confirmation, matched.map (·.name)⟩ := rfl
      show ((do
          let selected ← selectApprovers directory r matched
          tell (selectedEvent selected)
          let confirmations ← notifier.notifyAll r selected
          return ⟨r, selected, confirmations, matched.map (·.name)⟩) : Desk Outcome).run
            ((j.tell r.startedEvent).tell (c.matchedEvent matched)) = _
      rw [Desk.run_bind, hselect, hdecision]
      simp only [sent, told, hdecision]
      cases hs : selection directory r matched with
      | error cause =>
          simp [Journal.tell_eq_extend, Except.map, ← hmatched]
      | ok selected =>
          show ((do
              let confirmations ← notifier.notifyAll r selected
              return ⟨r, selected, confirmations, matched.map (·.name)⟩) : Desk Outcome).run
                (((j.tell r.startedEvent).tell (c.matchedEvent matched)).extend
                  (selectionEvents directory r matched) [] |>.tell (selectedEvent selected)) = _
          rw [Desk.run_lift_bind, Notifier.notifyAll_run]
          show (Except.ok _, _) = _
          simp [Journal.tell_eq_extend, Except.map, ← hmatched]

/-- A list of requests is decided one by one, and each adds to what the others left. -/
theorem runAll_eq (e : Engine) (rs : List ApprovalRequest) :
    ∀ j : Journal,
      e.runAll j rs = (rs.map e.decision, j.extend (rs.flatMap e.told) (rs.flatMap e.sent)) := by
  induction rs with
  | nil =>
      intro j
      exact congrArg (Prod.mk []) j.extend_nil.symm
  | cons r rs ih =>
      intro j
      simp only [runAll, run_eq, ih, Journal.extend_extend, List.map_cons, List.flatMap_cons]

/-! ### When a run fails -/

theorem decision_of_rules {e : Engine} {c : Configuration} (h : e.rules.fetch = .ok c)
    (r : ApprovalRequest) :
    e.decision r = (selection e.directory r (Rule.matching c.rules r)).map fun selected =>
      ⟨r, selected, selected.map Notice.confirmation, (Rule.matching c.rules r).map (·.name)⟩ := by
  unfold decision
  rw [h]
  rfl

/-- **A run fails with the failure of the rules, or with that of the directory if there is
a rule to ask it for.** -/
theorem decision_error_iff {e : Engine} {r : ApprovalRequest} {cause : CatalogError} :
    e.decision r = .error cause ↔
      e.rules.fetch = .error cause ∨
        e.directory.fetch = .error cause ∧
          ∃ c, e.rules.fetch = .ok c ∧ ∃ rule ∈ c.rules, rule.condition.holds r = true := by
  cases hr : e.rules.fetch with
  | error reason =>
      have hdecision : e.decision r = .error reason := by
        unfold decision
        rw [hr]
        rfl
      simp [hdecision]
  | ok c =>
      have hsome : Rule.matching c.rules r ≠ []
          ↔ ∃ rule ∈ c.rules, rule.condition.holds r = true := by
        rw [ne_eq, Rule.matching_eq_nil_iff]
        simp
      have hmap : e.decision r = .error cause
          ↔ selection e.directory r (Rule.matching c.rules r) = .error cause := by
        rw [decision_of_rules hr]
        cases selection e.directory r (Rule.matching c.rules r) <;> simp [Except.map]
      rw [hmap, selection_error_iff, hsome]
      simp

/-- A request that no rule holds of is decided, whether or not the directory answers. -/
theorem decision_of_unmatched {e : Engine} {r : ApprovalRequest} {c : Configuration}
    (hc : e.rules.fetch = .ok c) (h : ∀ rule ∈ c.rules, rule.condition.holds r = false) :
    e.decision r = .ok ⟨r, [], [], []⟩ := by
  rw [decision_of_rules hc, Rule.matching_eq_nil_iff.2 h]
  rfl

/-- What is decided names the request, and confirms those who are selected. -/
theorem decision_ok {e : Engine} {r : ApprovalRequest} {o : Outcome} (h : e.decision r = .ok o) :
    o.request = r ∧ o.confirmations = o.selected.map Notice.confirmation := by
  cases hr : e.rules.fetch with
  | error reason =>
      have hfail : e.decision r = .error reason := decision_error_iff.2 (Or.inl hr)
      rw [h] at hfail
      exact absurd hfail (by simp)
  | ok c =>
      rw [decision_of_rules hr] at h
      cases hs : selection e.directory r (Rule.matching c.rules r) with
      | error cause => simp [hs, Except.map] at h
      | ok selected =>
          simp only [hs, Except.map, Except.ok.injEq] at h
          subst h
          exact ⟨rfl, rfl⟩

/-! ### Runs on a shared outbox -/

/-- What one run is to do on an outbox that it shares with others: `found` is what it finds
there, and `left` is what it leaves. -/
structure OutboxStep (rules : Source Configuration) (directory : Source Directory)
    (r : ApprovalRequest) (found left : List Notice) (result : Except CatalogError Outcome) :
    Prop where
  /-- It fails with the rules, or with the directory if a rule holds, and not otherwise. -/
  fails : ∀ cause, result = .error cause ↔
    rules.fetch = .error cause ∨
      directory.fetch = .error cause ∧
        ∃ c, rules.fetch = .ok c ∧ ∃ rule ∈ c.rules, rule.condition.holds r = true
  /-- A request that no rule holds of goes to nobody, even if the directory fails. -/
  unmatched : ∀ c, rules.fetch = .ok c → (∀ rule ∈ c.rules, rule.condition.holds r = false) →
    result = .ok ⟨r, [], [], []⟩
  /-- A run that fails leaves the outbox as it is. -/
  kept : ∀ cause, result = .error cause → left = found
  /-- Any other run adds one notice for each approver selected, in their order. -/
  sent : ∀ o, result = .ok o →
    left = found ++ o.selected.map fun a => ⟨a.id, a.email, Notice.wording a r⟩
  /-- It confirms as many approvers as it has selected, each by name. -/
  confirmed : ∀ o, result = .ok o → o.request = r ∧
    o.confirmations = o.selected.map Notice.confirmation

theorem outboxStep_run (rules : Source Configuration) (directory : Source Directory)
    (r : ApprovalRequest) (j : Journal) :
    OutboxStep rules directory r j.outbox ((⟨rules, directory, .outbox⟩ : Engine).run r j).2.outbox
      ((⟨rules, directory, .outbox⟩ : Engine).run r j).1 := by
  rw [run_eq]
  refine ⟨fun cause => decision_error_iff, fun c hc h => decision_of_unmatched hc h, ?_, ?_,
    fun o h => decision_ok h⟩
  · intro cause (h : decision _ r = .error cause)
    simp [Engine.sent, h]
  · intro o (h : decision _ r = .ok o)
    simp only [Journal.extend_outbox, Engine.sent, h]
    rfl

/-- What a run that did not fail has put into the outbox, read off its outcome. -/
theorem sent_eq_filterMap (rules : Source Configuration) (directory : Source Directory)
    (rs : List ApprovalRequest) :
    rs.flatMap (⟨rules, directory, .outbox⟩ : Engine).sent
      = ((rs.map (⟨rules, directory, .outbox⟩ : Engine).decision).filterMap (·.toOption)).flatMap
          fun o => o.selected.map (Notice.about o.request) := by
  induction rs with
  | nil => rfl
  | cons r rs ih =>
      rw [List.flatMap_cons, ih, List.map_cons]
      cases h : decision ⟨rules, directory, .outbox⟩ r with
      | error cause => simp [sent, h, Except.toOption]
      | ok o => simp [sent, h, Except.toOption, Notifier.notices, (decision_ok h).1]

/--
**Requests on one engine do not meet, except in the outbox, where each adds its own.**

Whatever ran before it, a request gets the answer that it gets alone; every run is an
`OutboxStep`; and in the end the outbox holds, behind what it held, the notices of the runs
that did not fail, one for each approver whom they selected.
-/
theorem runAll_shared_outbox (rules : Source Configuration) (directory : Source Directory)
    (j : Journal) (rs : List ApprovalRequest) :
    let e : Engine := ⟨rules, directory, .outbox⟩
    let (results, left) := e.runAll j rs
    let outcomes := results.filterMap (·.toOption)
    results = rs.map (fun r => (e.run r Journal.empty).1) ∧
    (∀ before r after, rs = before ++ r :: after →
      let found := (e.runAll j before).2
      results[before.length]? = some (e.run r found).1 ∧
      (e.runAll j (before ++ [r])).2 = (e.run r found).2 ∧
      OutboxStep rules directory r found.outbox (e.run r found).2.outbox (e.run r found).1) ∧
    left.outbox = j.outbox ++ outcomes.flatMap (fun o => o.selected.map (Notice.about o.request)) ∧
    left.outbox.length = j.outbox.length + (outcomes.map (·.selected.length)).sum := by
  intro e
  simp only [runAll_eq]
  refine ⟨by simp only [run_eq], ?_, ?_, ?_⟩
  · intro before r after hrs
    refine ⟨?_, ?_, outboxStep_run rules directory r _⟩
    · rw [run_eq, hrs]
      simp
    · rw [run_eq]
      simp
  · rw [Journal.extend_outbox, sent_eq_filterMap]
  · rw [Journal.extend_outbox, sent_eq_filterMap, List.length_append, List.length_flatMap]
    simp only [List.length_map]
    rfl

end Engine

end InvoiceApproval
