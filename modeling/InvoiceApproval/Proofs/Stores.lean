/-
Runs on stores of any kind.

The engine asks two sources, which hold their data or fail.  Here it may be anything that
answers: `Stores` have a memory, so the same question may be answered, answered otherwise, or not
answered, whenever it is asked.

What comes of a run is settled before it comes to the notices, by the memory of the stores and
the request alone: `run_eq`.  `Prepares` says what that can be, and which events have been told by
then.

The sources of the engine are the case of stores that remember nothing: `Engine.runAll_eq_stores`.
-/
import InvoiceApproval.Proofs.Run

namespace InvoiceApproval

/-! ### Stores of any kind -/

/-- A store of rules and one of approvers, with a memory that they share. -/
structure Stores (σ : Type) where
  /-- Answers for the rules. -/
  configuration : σ → Except CatalogError Configuration × σ
  /-- Answers for the approvers with some ids. -/
  find : List String → σ → Except CatalogError (List Approver) × σ

/-- What a run on such stores may do. -/
abbrev Visit (σ α : Type) := ExceptT CatalogError (StateT σ (StateM Journal)) α

/-- What comes of work on such stores, with their memory and the journal afterwards. -/
structure Report (σ ρ : Type) where
  result : ρ
  memory : σ
  journal : Journal

/-- What a run has found out before it notifies anybody. -/
structure Findings where
  matched : List Rule
  selected : List Approver

/-- The outcome of a run, once all who are selected have been notified. -/
def Findings.outcome (f : Findings) (r : ApprovalRequest) : Outcome :=
  ⟨r, f.selected, f.selected.map Notice.confirmation, f.matched.map (·.name)⟩

theorem Findings.length_rulesApplied (f : Findings) (r : ApprovalRequest) :
    (f.outcome r).rulesApplied.length = f.matched.length := List.length_map ..

variable {σ : Type}

namespace Visit

variable {α β : Type}

/-- Asks a store; if it does not answer, the run ends. -/
def ask (question : σ → Except CatalogError α × σ) : Visit σ α :=
  ExceptT.mk fun memory => pure (question memory)

variable (memory : σ) (j : Journal)

/-- A step that may fail is followed by the next one only if it does not. -/
theorem run_bind (x : Visit σ α) (f : α → Visit σ β) :
    ((x >>= f).run memory).run j = match (x.run memory).run j with
      | ((.ok a, left), j) => ((f a).run left).run j
      | ((.error cause, left), j) => ((.error cause, left), j) := by
  unfold ExceptT.run StateT.run
  simp only [bind, ExceptT.bind, ExceptT.mk, StateT.bind]
  cases x memory j with
  | mk answer j =>
      cases answer with
      | mk result left => cases result <;> rfl

theorem run_pure (a : α) : ((pure a : Visit σ α).run memory).run j = ((.ok a, memory), j) := rfl

theorem run_lift (x : StateM Journal α) :
    ((x : Visit σ α).run memory).run j = ((.ok (x.run j).1, memory), (x.run j).2) := rfl

theorem run_tell (e : Event) :
    ((tell e : Visit σ Unit).run memory).run j = ((.ok (), memory), j.extend [e] []) := by
  rw [run_lift, ← Journal.tell_eq_extend]
  rfl

theorem run_ask (question : σ → Except CatalogError α × σ) :
    ((ask question).run memory).run j = (question memory, j) := rfl

end Visit

namespace Stores

/-- The approvers that a request goes to. -/
def selectApprovers (s : Stores σ) (r : ApprovalRequest) (matched : List Rule) :
    Visit σ (List Approver) := do
  match matched with
  | [] =>
    tell r.unmatchedEvent
    return []
  | rule :: _ =>
    let resolved ← Visit.ask (s.find rule.approverIds)
    if resolved.length < rule.approverIds.length then
      tell (rule.unresolvedEvent resolved)
    return rule.routing.route r resolved

/-- A run as far as the notices. -/
def prepare (s : Stores σ) (r : ApprovalRequest) : Visit σ Findings := do
  tell r.startedEvent
  let configuration ← Visit.ask s.configuration
  let matched := Rule.matching configuration.rules r
  tell (configuration.matchedEvent matched)
  let selected ← s.selectApprovers r matched
  tell (selectedEvent selected)
  return ⟨matched, selected⟩

/-- A run. -/
def execute (s : Stores σ) (n : Notifier) (r : ApprovalRequest) : Visit σ Outcome := do
  let found ← s.prepare r
  let confirmations ← n.notifyAll r found.selected
  return ⟨r, found.selected, confirmations, found.matched.map (·.name)⟩

/-- Runs one request. -/
def run (s : Stores σ) (n : Notifier) (r : ApprovalRequest) (memory : σ) (j : Journal) :
    Report σ (Except CatalogError Outcome) :=
  let ((result, memory), j) := ((s.execute n r).run memory).run j
  ⟨result, memory, j⟩

/-- Runs requests one after the other. -/
def runAll (s : Stores σ) (n : Notifier) :
    List ApprovalRequest → σ → Journal → Report σ (List (Except CatalogError Outcome))
  | [], memory, j => ⟨[], memory, j⟩
  | r :: rs, memory, j =>
    let first := s.run n r memory j
    let rest := s.runAll n rs first.memory first.journal
    ⟨first.result :: rest.result, rest.memory, rest.journal⟩

/-- The stores that two sources make. -/
def ofSources (rules : Source Configuration) (directory : Source Directory) : Stores Unit where
  configuration _ := (rules.fetch, ())
  find ids _ := (directory.fetch.map (·.resolve ids), ())

/-! ### Selecting approvers -/

/-- What the selection of approvers can come to: a result, the memory that the stores are left
with, and the events told on the way. -/
inductive Selects (s : Stores σ) (r : ApprovalRequest) :
    List Rule → σ → Except CatalogError (List Approver) → σ → List Event → Prop
  /-- Without a rule nobody is asked for. -/
  | nobody {memory : σ} : Selects s r [] memory (.ok []) memory [r.unmatchedEvent]
  /-- The approvers of the first rule cannot be had. -/
  | unanswered {rule : Rule} {rest : List Rule} {memory left : σ} {cause : CatalogError}
      (hfind : s.find rule.approverIds memory = (.error cause, left)) :
      Selects s r (rule :: rest) memory (.error cause) left []
  /-- The routing of the first rule is tried on those of its approvers who are known. -/
  | answered {rule : Rule} {rest : List Rule} {memory left : σ} {resolved : List Approver}
      (hfind : s.find rule.approverIds memory = (.ok resolved, left)) :
      Selects s r (rule :: rest) memory (.ok (rule.routing.route r resolved)) left
        (if resolved.length < rule.approverIds.length then [rule.unresolvedEvent resolved] else [])

theorem selectApprovers_run (s : Stores σ) (r : ApprovalRequest) (matched : List Rule)
    (memory : σ) :
    ∃ result left told, Selects s r matched memory result left told ∧ ∀ j : Journal,
      ((s.selectApprovers r matched).run memory).run j = ((result, left), j.extend told []) := by
  cases matched with
  | nil =>
      refine ⟨_, _, _, .nobody, ?_⟩
      intro j
      simp only [selectApprovers, Visit.run_bind, Visit.run_tell, Visit.run_pure]
  | cons rule rest =>
      obtain ⟨⟨answer, left⟩, hfind⟩ : ∃ answered, s.find rule.approverIds memory = answered :=
        ⟨_, rfl⟩
      cases answer with
      | error cause =>
          refine ⟨_, _, _, .unanswered hfind, ?_⟩
          intro j
          simp only [selectApprovers, Visit.run_bind, Visit.run_ask, hfind, Journal.extend_nil]
      | ok resolved =>
          refine ⟨_, _, _, .answered hfind, ?_⟩
          intro j
          by_cases hmissing : resolved.length < rule.approverIds.length
          · simp only [selectApprovers, Visit.run_bind, Visit.run_ask, Visit.run_tell,
              Visit.run_pure, hfind, if_pos hmissing]
          · simp only [selectApprovers, Visit.run_bind, Visit.run_ask, Visit.run_pure, hfind,
              if_neg hmissing, Journal.extend_nil]

/-- Only two kinds of events are told while approvers are selected. -/
theorem Selects.name_of_mem {s : Stores σ} {r : ApprovalRequest} {matched : List Rule}
    {memory left : σ} {result : Except CatalogError (List Approver)} {told : List Event}
    (h : Selects s r matched memory result left told) :
    ∀ e ∈ told, e.name = "workflow.rules.none_matched" ∨
      e.name = "workflow.approvers.unresolved" := by
  cases h with
  | nobody => exact List.forall_mem_singleton.2 (Or.inl rfl)
  | unanswered _ => exact List.forall_mem_nil _
  | answered _ =>
      split
      · exact List.forall_mem_singleton.2 (Or.inr rfl)
      · exact List.forall_mem_nil _

/-! ### As far as the notices -/

/-- What a run can come to before the notices: its findings or its failure, the memory that the
stores are left with, and the events that it has told. -/
inductive Prepares (s : Stores σ) (r : ApprovalRequest) (memory : σ) :
    Except CatalogError Findings → σ → List Event → Prop
  /-- There are no rules to be had. -/
  | withoutRules {cause : CatalogError} {left : σ}
      (hrules : s.configuration memory = (.error cause, left)) :
      Prepares s r memory (.error cause) left [r.startedEvent]
  /-- Rules have been matched, but the approvers are not to be had. -/
  | withoutApprovers {c : Configuration} {between left : σ} {cause : CatalogError}
      {told : List Event} (hrules : s.configuration memory = (.ok c, between))
      (hselects : Selects s r (Rule.matching c.rules r) between (.error cause) left told) :
      Prepares s r memory (.error cause) left
        (r.startedEvent :: c.matchedEvent (Rule.matching c.rules r) :: told)
  /-- Rules have been matched and approvers selected. -/
  | found {c : Configuration} {between left : σ} {selected : List Approver}
      {told : List Event} (hrules : s.configuration memory = (.ok c, between))
      (hselects : Selects s r (Rule.matching c.rules r) between (.ok selected) left told) :
      Prepares s r memory (.ok ⟨Rule.matching c.rules r, selected⟩) left
        (r.startedEvent :: c.matchedEvent (Rule.matching c.rules r)
          :: (told ++ [selectedEvent selected]))

theorem prepare_run (s : Stores σ) (r : ApprovalRequest) (memory : σ) :
    ∃ result left told, Prepares s r memory result left told ∧
      ∀ j : Journal, ((s.prepare r).run memory).run j = ((result, left), j.extend told []) := by
  obtain ⟨⟨answer, between⟩, hrules⟩ : ∃ answered, s.configuration memory = answered := ⟨_, rfl⟩
  cases answer with
  | error cause =>
      refine ⟨_, _, _, .withoutRules hrules, ?_⟩
      intro j
      simp only [prepare, Visit.run_bind, Visit.run_tell, Visit.run_ask, hrules]
  | ok c =>
      obtain ⟨result, left, told, hselects, hrun⟩ :=
        s.selectApprovers_run r (Rule.matching c.rules r) between
      cases result with
      | error cause =>
          refine ⟨_, _, _, .withoutApprovers hrules hselects, ?_⟩
          intro j
          simp only [prepare, Visit.run_bind, Visit.run_tell, Visit.run_ask, hrules, hrun,
            Journal.extend_extend, List.append_nil, List.cons_append, List.nil_append]
      | ok selected =>
          refine ⟨_, _, _, .found hrules hselects, ?_⟩
          intro j
          simp only [prepare, Visit.run_bind, Visit.run_tell, Visit.run_ask, Visit.run_pure,
            hrules, hrun, Journal.extend_extend, List.append_nil, List.cons_append,
            List.nil_append]

/-! ### A run -/

/-- **A run comes to the notices with the same findings, whoever notifies.** -/
theorem run_eq (s : Stores σ) (r : ApprovalRequest) (memory : σ) :
    ∃ result left told, Prepares s r memory result left told ∧
      ∀ (n : Notifier) (j : Journal), s.run n r memory j = match result with
        | .ok f =>
          ⟨.ok (f.outcome r), left,
            (j.extend told []).extend (n.events r f.selected) (n.notices r f.selected)⟩
        | .error cause => ⟨.error cause, left, j.extend told []⟩ := by
  obtain ⟨result, left, told, hprepares, hrun⟩ := s.prepare_run r memory
  refine ⟨result, left, told, hprepares, ?_⟩
  intro n j
  cases result with
  | error cause => simp only [run, execute, Visit.run_bind, hrun]
  | ok f =>
      simp only [run, execute, Visit.run_bind, Visit.run_lift, Visit.run_pure, hrun,
        Notifier.notifyAll_run]
      rfl

/-! ### Requests in a row -/

/-- Requests that come later do not change what was answered before. -/
theorem runAll_append (s : Stores σ) (n : Notifier) (before after : List ApprovalRequest) :
    ∀ (memory : σ) (j : Journal),
      let found := s.runAll n before memory j
      let rest := s.runAll n after found.memory found.journal
      s.runAll n (before ++ after) memory j
        = ⟨found.result ++ rest.result, rest.memory, rest.journal⟩ := by
  induction before with
  | nil =>
      intro memory j
      rfl
  | cons r before ih =>
      intro memory j
      simp only [List.cons_append, runAll, ih]

theorem length_runAll (s : Stores σ) (n : Notifier) (rs : List ApprovalRequest) :
    ∀ (memory : σ) (j : Journal), (s.runAll n rs memory j).result.length = rs.length := by
  induction rs with
  | nil =>
      intro memory j
      rfl
  | cons r rs ih =>
      intro memory j
      simp only [runAll, List.length_cons, ih]

/-- The answer to a request is that of a run on what the requests before it have left. -/
theorem result_runAll (s : Stores σ) (n : Notifier) (before : List ApprovalRequest)
    (r : ApprovalRequest) (after : List ApprovalRequest) (memory : σ) (j : Journal) :
    let found := s.runAll n before memory j
    (s.runAll n (before ++ r :: after) memory j).result[before.length]?
      = some (s.run n r found.memory found.journal).result := by
  intro found
  rw [runAll_append, ← s.length_runAll n before memory j]
  simp [runAll, found]

end Stores

/-! ### The stores of the engine -/

/-- A step on stores that remember nothing does what a step of the engine does. -/
def Mirrors {α : Type} (x : Visit Unit α) (y : Desk α) : Prop :=
  ∀ j : Journal, (x.run ()).run j = (((y.run j).1, ()), (y.run j).2)

namespace Mirrors

variable {α β : Type}

theorem bind {x : Visit Unit α} {y : Desk α} {f : α → Visit Unit β} {g : α → Desk β}
    (h : Mirrors x y) (hnext : ∀ a, Mirrors (f a) (g a)) : Mirrors (x >>= f) (y >>= g) := by
  intro j
  rw [Visit.run_bind, h j, Desk.run_bind]
  obtain ⟨⟨⟩ | a, left⟩ := y.run j
  · rfl
  · exact hnext a left

theorem pure (a : α) : Mirrors (Pure.pure a) (Pure.pure a) := fun _ => rfl

theorem lift (x : StateM Journal α) : Mirrors (x : Visit Unit α) (x : Desk α) := fun _ => rfl

theorem ask {question : Unit → Except CatalogError α × Unit} {source : Source α}
    (h : question () = (source.fetch, ())) : Mirrors (Visit.ask question) source.ask := by
  intro j
  rw [Visit.run_ask, h]
  rfl

end Mirrors

theorem mirrors_selectApprovers (rules : Source Configuration) (directory : Source Directory)
    (r : ApprovalRequest) (matched : List Rule) :
    Mirrors ((Stores.ofSources rules directory).selectApprovers r matched)
      (selectApprovers directory r matched) := by
  intro j
  obtain ⟨result, left, told, hselects, hrun⟩ :=
    (Stores.ofSources rules directory).selectApprovers_run r matched ()
  rw [hrun, selectApprovers_run]
  cases hselects with
  | nobody => rfl
  | unanswered hfind =>
      cases directory with
      | offline reason =>
          cases hfind
          rfl
      | available d => exact nomatch hfind
  | answered hfind =>
      cases directory with
      | offline reason => exact nomatch hfind
      | available d =>
          cases hfind
          rfl

theorem mirrors_execute (rules : Source Configuration) (directory : Source Directory) (n : Notifier)
    (r : ApprovalRequest) :
    Mirrors ((Stores.ofSources rules directory).execute n r)
      (Engine.execute ⟨rules, directory, n⟩ r) := by
  simp only [Stores.execute, Stores.prepare, bind_assoc, pure_bind]
  refine Mirrors.bind (Mirrors.lift _) fun _ => ?_
  refine Mirrors.bind (Mirrors.ask rfl) fun c => ?_
  refine Mirrors.bind (Mirrors.lift _) fun _ => ?_
  refine Mirrors.bind (mirrors_selectApprovers rules directory r _) fun selected => ?_
  refine Mirrors.bind (Mirrors.lift _) fun _ => ?_
  exact Mirrors.bind (Mirrors.lift _) fun _ => Mirrors.pure _

namespace Engine

variable (rules : Source Configuration) (directory : Source Directory) (n : Notifier)

theorem run_eq_stores (r : ApprovalRequest) (j : Journal) :
    let step := (Stores.ofSources rules directory).run n r () j
    (⟨rules, directory, n⟩ : Engine).run r j = (step.result, step.journal) := by
  simp only [Engine.run, Stores.run, mirrors_execute rules directory n r j]
  rfl

/-- **The engine runs requests as on stores that remember nothing.** -/
theorem runAll_eq_stores (rs : List ApprovalRequest) :
    ∀ j : Journal,
      let left := (Stores.ofSources rules directory).runAll n rs () j
      (⟨rules, directory, n⟩ : Engine).runAll j rs = (left.result, left.journal) := by
  induction rs with
  | nil =>
      intro j
      rfl
  | cons r rs ih =>
      intro j
      simp only [Engine.runAll, Stores.runAll, run_eq_stores, ih]

end Engine

end InvoiceApproval
