/-
What does not hang on the notifier.

A notice is put into the outbox or told on a channel, and a run comes to that only when all else
is done.  So two runs over the same requests, one with each kind of notifier, go side by side:
they decide the same, and what one of them sends the other one tells.  `Beside` says how their
journals stand to each other.  One request keeps it, and so does a list of them.

The other events of a run are the same with both, and the counts in them are those of the outcome:
`Counted`.  It does not matter what the stores are.
-/
import InvoiceApproval.Proofs.Stores

namespace InvoiceApproval

/-! ### Reading events -/

/-- The notice that stands in the particulars of an event.  The message of the event itself is
the same for all notices, and is not theirs. -/
def Notice.ofEvent? (e : Event) : Option Notice := do
  let approverId ← e.details.lookup "approver_id"
  let recipient ← e.details.lookup "recipient"
  let message ← e.details.lookup "message"
  return ⟨approverId, recipient, message⟩

theorem Notice.ofEvent?_event (channel : String) (n : Notice) :
    Notice.ofEvent? (n.event channel) = some n := rfl

/-- What the events of one name say in a field. -/
def Event.said (name field : String) (es : List Event) : List (Option String) :=
  (es.filter (·.name = name)).map (·.details.lookup field)

namespace Event

theorem said_append (name field : String) (es es' : List Event) :
    said name field (es ++ es') = said name field es ++ said name field es' := by
  simp [said]

theorem said_cons (name field : String) (e : Event) (es : List Event) :
    said name field (e :: es)
      = (if e.name = name then [e.details.lookup field] else []) ++ said name field es := by
  by_cases h : e.name = name <;> simp [said, h]

theorem said_eq_nil {name : String} (field : String) {es : List Event}
    (h : ∀ e ∈ es, e.name ≠ name) : said name field es = [] := by
  simpa [said] using h

end Event

/-- The events of a run count what is in its outcome: they say once how many rules were matched,
and once how many approvers were selected.  A run that fails has not selected anybody. -/
structure Counted (told : List Event) (result : Except CatalogError Outcome) : Prop where
  matched : ∀ o, result = .ok o →
    Event.said "workflow.rules.matched" "matched" told = [some (toString o.rulesApplied.length)]
  selected : ∀ o, result = .ok o →
    Event.said "workflow.approvers.selected" "selected" told = [some (toString o.selected.length)]
  failed : ∀ cause, result = .error cause →
    Event.said "workflow.approvers.selected" "selected" told = []

/-- Notices do not count. -/
theorem Counted.notify {told notices : List Event} {result : Except CatalogError Outcome}
    (h : Counted told result) (hnotices : ∀ e ∈ notices, e.isNotice = true) :
    Counted (told ++ notices) result := by
  have hsaid {name : String} (hname : name ≠ "notification.sent") (field : String) :
      Event.said name field (told ++ notices) = Event.said name field told := by
    have hnone : Event.said name field notices = [] := by
      refine Event.said_eq_nil field ?_
      rintro e he rfl
      exact hname (beq_iff_eq.1 (hnotices e he))
    rw [Event.said_append, hnone, List.append_nil]
  refine ⟨?_, ?_, ?_⟩
  · intro o ho
    rw [hsaid (by decide), h.matched o ho]
  · intro o ho
    rw [hsaid (by decide), h.selected o ho]
  · intro cause hcause
    rw [hsaid (by decide), h.failed cause hcause]

/-! ### Two journals side by side -/

namespace Notifier

/-- A notifier tells of nothing but notices. -/
theorem isNotice_of_mem_events (n : Notifier) (r : ApprovalRequest) (as : List Approver) :
    ∀ e ∈ n.events r as, e.isNotice = true := by
  cases n with
  | outbox => exact List.forall_mem_nil _
  | log channel => exact List.forall_mem_map.2 fun _ _ => rfl

/-- What is told on a channel reads as what is put into the outbox. -/
theorem map_ofEvent?_events (channel : String) (r : ApprovalRequest) (as : List Approver) :
    ((log channel).events r as).map Notice.ofEvent? = (outbox.notices r as).map some := by
  simp only [events, notices, List.map_map]
  exact List.map_congr_left fun a _ => Notice.ofEvent?_event channel (Notice.about r a)

end Notifier

/-- Two journals, of which the one tells what the other one sends. -/
structure Beside (logged posted : Journal) : Prop where
  /-- The notices told are those in the outbox. -/
  notices : (logged.events.filter Event.isNotice).map Notice.ofEvent? = posted.outbox.map some
  /-- All other events are the same. -/
  others : logged.events.filter (!·.isNotice) = posted.events
  /-- Nothing is both told and sent. -/
  unsent : logged.outbox = []

namespace Beside

variable {logged posted : Journal}

theorem empty : Beside Journal.empty Journal.empty := ⟨rfl, rfl, rfl⟩

/-- Both may tell of other things. -/
theorem tell (h : Beside logged posted) {told : List Event}
    (htold : ∀ e ∈ told, e.isNotice = false) :
    Beside (logged.extend told []) (posted.extend told []) where
  notices := by
    have hnone : told.filter Event.isNotice = [] := by simpa [List.filter_eq_nil_iff] using htold
    simp [Journal.extend, hnone, h.notices]
  others := by
    have hall : told.filter (!·.isNotice) = told := by simpa [List.filter_eq_self] using htold
    simp [Journal.extend, hall, h.others]
  unsent := by simp [h.unsent]

/-- Both may notify the same approvers. -/
theorem notify (h : Beside logged posted) (channel : String) (r : ApprovalRequest)
    (as : List Approver) :
    Beside
      (logged.extend ((Notifier.log channel).events r as) ((Notifier.log channel).notices r as))
      (posted.extend (Notifier.outbox.events r as) (Notifier.outbox.notices r as)) := by
  have hnotices := (Notifier.log channel).isNotice_of_mem_events r as
  refine ⟨?_, ?_, ?_⟩
  · have hall : ((Notifier.log channel).events r as).filter Event.isNotice
        = (Notifier.log channel).events r as := List.filter_eq_self.2 hnotices
    simp only [Journal.extend, List.filter_append, List.map_append, hall, h.notices,
      Notifier.map_ofEvent?_events]
  · have hnone : ((Notifier.log channel).events r as).filter (!·.isNotice) = [] := by
      simpa [List.filter_eq_nil_iff] using hnotices
    show (logged.events ++ (Notifier.log channel).events r as).filter _ = posted.events ++ []
    rw [List.filter_append, hnone, h.others]
  · show logged.outbox ++ [] = []
    rw [h.unsent, List.append_nil]

end Beside

/-! ### What a run tells -/

namespace Stores

variable {σ : Type} {s : Stores σ} {r : ApprovalRequest} {memory left : σ} {told : List Event}

/-- No event of another name is told while approvers are selected. -/
theorem Selects.said_eq_nil {matched : List Rule} {result : Except CatalogError (List Approver)}
    (h : Selects s r matched memory result left told) {name : String}
    (hunmatched : name ≠ "workflow.rules.none_matched")
    (hunresolved : name ≠ "workflow.approvers.unresolved") (field : String) :
    Event.said name field told = [] := by
  refine Event.said_eq_nil field ?_
  rintro e he rfl
  exact (h.name_of_mem e he).elim hunmatched hunresolved

theorem Selects.isNotice_eq_false {matched : List Rule}
    {result : Except CatalogError (List Approver)}
    (h : Selects s r matched memory result left told) : ∀ e ∈ told, e.isNotice = false := by
  intro e he
  unfold Event.isNotice
  rcases h.name_of_mem e he with hname | hname <;> simp [hname]

/-- Nothing that is told before the notices is one. -/
theorem Prepares.isNotice_eq_false {result : Except CatalogError Findings}
    (h : Prepares s r memory result left told) : ∀ e ∈ told, e.isNotice = false := by
  cases h with
  | withoutRules _ => exact List.forall_mem_singleton.2 rfl
  | withoutApprovers _ hselects =>
      exact List.forall_mem_cons.2 ⟨rfl, List.forall_mem_cons.2 ⟨rfl, hselects.isNotice_eq_false⟩⟩
  | found _ hselects =>
      refine List.forall_mem_cons.2 ⟨rfl, List.forall_mem_cons.2 ⟨rfl, ?_⟩⟩
      exact List.forall_mem_append.2
        ⟨hselects.isNotice_eq_false, List.forall_mem_singleton.2 rfl⟩

/-- What is told before the notices counts what was found. -/
theorem Prepares.counted {result : Except CatalogError Findings}
    (h : Prepares s r memory result left told) : Counted told (result.map (·.outcome r)) := by
  cases h with
  | withoutRules _ => exact ⟨by simp [Except.map], by simp [Except.map], fun _ _ => rfl⟩
  | withoutApprovers _ hselects =>
      refine ⟨by simp [Except.map], by simp [Except.map], ?_⟩
      intro cause _
      rw [Event.said_cons, Event.said_cons, hselects.said_eq_nil (by decide) (by decide)]
      rfl
  | found _ hselects =>
      refine ⟨?_, ?_, by simp [Except.map]⟩
      · rintro o ⟨⟩
        rw [Event.said_cons, Event.said_cons, Event.said_append,
          hselects.said_eq_nil (by decide) (by decide), Findings.length_rulesApplied]
        rfl
      · rintro o ⟨⟩
        rw [Event.said_cons, Event.said_cons, Event.said_append,
          hselects.said_eq_nil (by decide) (by decide)]
        rfl

/-- **The events that a run adds count what is in its outcome.** -/
theorem run_counted (s : Stores σ) (n : Notifier) (r : ApprovalRequest) (memory : σ)
    (found : Journal) :
    let step := s.run n r memory found
    ∃ told, step.journal.events = found.events ++ told ∧ Counted told step.result := by
  intro step
  obtain ⟨result, left, told, hprepares, hrun⟩ := s.run_eq r memory
  have hcounted := hprepares.counted
  have hstep := hrun n found
  cases result with
  | error cause =>
      refine ⟨told, ?_, ?_⟩ <;> simp only [step, hstep]
      · rfl
      · exact hcounted
  | ok f =>
      refine ⟨told ++ n.events r f.selected, ?_, ?_⟩ <;> simp only [step, hstep]
      · exact List.append_assoc ..
      · exact hcounted.notify (n.isNotice_of_mem_events r f.selected)

/-! ### Two runs side by side -/

/-- **A request that is run on two journals side by side leaves them side by side.** -/
theorem beside_run (s : Stores σ) (channel : String) (r : ApprovalRequest) (memory : σ)
    {logged posted : Journal} (h : Beside logged posted) :
    let log := s.run (.log channel) r memory logged
    let post := s.run .outbox r memory posted
    log.result = post.result ∧ log.memory = post.memory ∧ Beside log.journal post.journal := by
  intro log post
  obtain ⟨result, left, told, hprepares, hrun⟩ := s.run_eq r memory
  have htold := h.tell hprepares.isNotice_eq_false
  have hlog := hrun (.log channel) logged
  have hpost := hrun .outbox posted
  cases result with
  | error cause =>
      simp only [log, post, hlog, hpost, true_and]
      exact htold
  | ok f =>
      simp only [log, post, hlog, hpost, true_and]
      exact htold.notify channel r f.selected

theorem beside_runAll (s : Stores σ) (channel : String) (rs : List ApprovalRequest) :
    ∀ (memory : σ) {logged posted : Journal}, Beside logged posted →
      let log := s.runAll (.log channel) rs memory logged
      let post := s.runAll .outbox rs memory posted
      log.result = post.result ∧ log.memory = post.memory ∧ Beside log.journal post.journal := by
  induction rs with
  | nil =>
      intro memory logged posted h
      exact ⟨rfl, rfl, h⟩
  | cons r rs ih =>
      intro memory logged posted h
      obtain ⟨hresult, hmemory, hjournals⟩ := s.beside_run channel r memory h
      obtain ⟨hresults, hleft, hend⟩ := ih (s.run .outbox r memory posted).memory hjournals
      simp only [runAll, hresult, hmemory]
      exact ⟨congrArg _ hresults, hleft, hend⟩

end Stores

/-! ### Both notifiers -/

/--
**Both notifiers say the same, and neither has a say in what is decided.**

Let the stores be what they may, and let requests be run on two days on which nothing has
happened yet, with notices told on a channel on the one and put into the outbox on the other.
Request for request the results are the same.  The notices told, in their order, are those in
the outbox, and the other events are the same on both days.  On either day the events of each
request count the rules and the approvers in its outcome.  The engine is a case of this.
-/
theorem Stores.notifiers_agree {σ : Type} (s : Stores σ) (memory : σ) (channel : String)
    (rs : List ApprovalRequest) :
    let log := s.runAll (.log channel) rs memory Journal.empty
    let post := s.runAll .outbox rs memory Journal.empty
    log.result = post.result ∧
    (log.journal.events.filter Event.isNotice).map Notice.ofEvent?
      = post.journal.outbox.map some ∧
    log.journal.events.filter (!·.isNotice) = post.journal.events ∧
    log.journal.outbox = [] ∧
    (∀ n before r after, rs = before ++ r :: after →
      let found := s.runAll n before memory Journal.empty
      let step := s.run n r found.memory found.journal
      (s.runAll n rs memory Journal.empty).result[before.length]? = some step.result ∧
      ∃ told, step.journal.events = found.journal.events ++ told ∧ Counted told step.result) ∧
    ∀ rules directory n,
      let left := (Stores.ofSources rules directory).runAll n rs () Journal.empty
      (⟨rules, directory, n⟩ : Engine).runAll Journal.empty rs = (left.result, left.journal) := by
  intro log post
  obtain ⟨hresults, -, hjournals⟩ := s.beside_runAll channel rs memory Beside.empty
  refine ⟨hresults, hjournals.notices, hjournals.others, hjournals.unsent, ?_, ?_⟩
  · rintro n before r after rfl
    exact ⟨s.result_runAll n before r after memory _, s.run_counted n r _ _⟩
  · intro rules directory n
    exact Engine.runAll_eq_stores rules directory n rs Journal.empty

end InvoiceApproval
