/-
Who is selected.

With both stores at hand a run cannot fail, and whom it selects is a function of the
directory, the request and the rules that match: `Directory.chosen`.  It looks up the
ids of the first rule and narrows what it finds.

Neither step adds anything.  A look-up gives one approver for an id and leaves out the
ids that it does not know, and a routing leaves out candidates, so the ids of those who
are selected stand on the rule in the same order (`map_id_chosen_sublist`).  In
particular no approver is selected more often than the rule names that approver.
-/
import InvoiceApproval.Proofs.Run

namespace InvoiceApproval

/-! ### Looking up -/

namespace Directory

variable {d : Directory}

theorem mem_of_find?_eq_some {id : String} {a : Approver} (h : d.find? id = some a) :
    a ∈ d.approvers ∧ a.id = id :=
  find?_eq_some_iff.1 h

theorem mem_of_mem_resolve {ids : List String} {a : Approver} (h : a ∈ d.resolve ids) :
    a ∈ d.approvers ∧ a.id ∈ ids := by
  obtain ⟨id, hid, hfind⟩ := List.mem_filterMap.1 h
  obtain ⟨hmem, rfl⟩ := mem_of_find?_eq_some hfind
  exact ⟨hmem, hid⟩

/-- **What is looked up has the ids that are known, as often as they are asked for.** -/
theorem map_id_resolve (d : Directory) (ids : List String) :
    (d.resolve ids).map (·.id) = ids.filter fun id => (d.find? id).isSome := by
  induction ids with
  | nil => rfl
  | cons id ids ih =>
      unfold resolve at ih ⊢
      cases hfind : d.find? id with
      | none => simp [hfind, ih]
      | some a => simp [hfind, ih, (mem_of_find?_eq_some hfind).2]

end Directory

/-! ### Narrowing -/

namespace Routing

theorem narrow_sublist (isManager : Bool) (department : Department) (candidates : List Approver) :
    (narrow isManager department candidates).Sublist candidates := by
  unfold narrow
  dsimp only
  split
  · exact (List.take_sublist _ _).trans List.filter_sublist
  · exact List.filter_sublist.trans List.filter_sublist

theorem route_sublist (k : Routing) (r : ApprovalRequest) (candidates : List Approver) :
    (k.route r candidates).Sublist candidates := by
  cases k with
  | managerInDepartment => exact narrow_sublist _ _ _
  | nonManagerInDepartment => exact narrow_sublist _ _ _
  | unfiltered => exact List.Sublist.refl _

/-- Of a request, a routing looks at the department only. -/
theorem route_of_department_eq {r s : ApprovalRequest} (h : r.department = s.department)
    (k : Routing) (candidates : List Approver) : k.route r candidates = k.route s candidates := by
  unfold route
  rw [h]

/-- What a department gets out of candidates of one role: the one of its own, or the first
one if it has none. -/
structure Seated (department : Department) (candidates : List Approver) (a : Approver) : Prop where
  mem : a ∈ candidates
  own : ∀ b ∈ candidates, b.department = some department → b = a
  first : (∀ b ∈ candidates, b.department ≠ some department) → candidates.head? = some a

/-- **Where every department has at most one candidate, narrowing finds exactly one.** -/
theorem narrow_eq_singleton {isManager : Bool} {candidates : List Approver}
    (hne : candidates ≠ []) (hrole : ∀ a ∈ candidates, a.isManager = isManager)
    (hapart : candidates.Pairwise fun a b => a.department ≠ b.department)
    (department : Department) :
    ∃ a, narrow isManager department candidates = [a] ∧ Seated department candidates a := by
  have hall : candidates.filter (·.isManager == isManager) = candidates := by
    rw [List.filter_eq_self]
    intro a ha
    simpa using hrole a ha
  have hown : ∀ b, b ∈ candidates.filter (·.belongsTo department)
      ↔ b ∈ candidates ∧ b.department = some department := by
    intro b
    simp [Approver.belongsTo]
  unfold narrow
  dsimp only
  rw [hall]
  cases hfilter : candidates.filter (·.belongsTo department) with
  | nil =>
      have hnone : ∀ b ∈ candidates, b.department ≠ some department := by
        intro b hb hdepartment
        have := (hown b).2 ⟨hb, hdepartment⟩
        simp [hfilter] at this
      cases candidates with
      | nil => exact absurd rfl hne
      | cons a rest =>
          refine ⟨a, rfl, by simp, ?_, fun _ => rfl⟩
          intro b hb hdepartment
          exact absurd hdepartment (hnone b hb)
  | cons a rest =>
      have ha := (hown a).1 (by simp [hfilter])
      have hrest : ∀ b ∈ rest, False := by
        intro b hb
        have hpair := hapart.sublist (List.filter_sublist (p := (·.belongsTo department)))
        rw [hfilter, List.pairwise_cons] at hpair
        have hb' := (hown b).1 (by simp [hfilter, hb])
        exact hpair.1 b hb (ha.2.trans hb'.2.symm)
      have hnil : rest = [] := List.eq_nil_iff_forall_not_mem.2 hrest
      subst hnil
      refine ⟨a, rfl, ha.1, ?_, ?_⟩
      · intro b hb hdepartment
        have := (hown b).2 ⟨hb, hdepartment⟩
        simpa [hfilter] using this
      · intro hnone
        exact absurd ha.2 (hnone a ha.1)

end Routing

/-! ### Selecting -/

/-- The approvers of a directory that a request goes to, given the rules that match. -/
def Directory.chosen (d : Directory) (r : ApprovalRequest) : List Rule → List Approver
  | [] => []
  | rule :: _ => rule.routing.route r (d.resolve rule.approverIds)

theorem selection_available (d : Directory) (r : ApprovalRequest) (matched : List Rule) :
    selection (.available d) r matched = .ok (d.chosen r matched) := by
  cases matched <;> rfl

/-- **With both stores at hand every run comes to an end.** -/
theorem Engine.run_available (c : Configuration) (d : Directory) (notifier : Notifier)
    (r : ApprovalRequest) (j : Journal) :
    let e : Engine := ⟨.available c, .available d, notifier⟩
    let selected := d.chosen r (Rule.matching c.rules r)
    (e.run r j).1 = .ok ⟨r, selected, selected.map Notice.confirmation,
        (Rule.matching c.rules r).map (·.name)⟩ ∧
      (e.run r j).2.outbox = j.outbox ++ notifier.notices r selected := by
  intro e selected
  have hdecision : e.decision r = .ok ⟨r, selected, selected.map Notice.confirmation,
      (Rule.matching c.rules r).map (·.name)⟩ := by
    rw [decision_of_rules (c := c) rfl, selection_available]
    rfl
  rw [run_eq]
  refine ⟨hdecision, ?_⟩
  rw [Journal.extend_outbox, Engine.sent, hdecision]

/-- With both stores at hand, what a run tells hangs on the rules that match and on who is
selected. -/
theorem Engine.told_available (c : Configuration) (d : Directory) (notifier : Notifier)
    (r : ApprovalRequest) :
    let matched := Rule.matching c.rules r
    Engine.told ⟨.available c, .available d, notifier⟩ r
      = r.startedEvent :: c.matchedEvent matched :: (selectionEvents (.available d) r matched
          ++ selectedEvent (d.chosen r matched) :: notifier.events r (d.chosen r matched)) := by
  simp only [told, selection_available]

theorem Directory.chosen_of_department_eq {d : Directory} {r s : ApprovalRequest}
    (h : r.department = s.department) (matched : List Rule) :
    d.chosen r matched = d.chosen s matched := by
  cases matched with
  | nil => rfl
  | cons rule rest => exact Routing.route_of_department_eq h _ _

/-- **The ids of those who are selected stand on the first rule, in the same order.** -/
theorem Directory.map_id_chosen_sublist (d : Directory) (r : ApprovalRequest) (rule : Rule)
    (rest : List Rule) : ((d.chosen r (rule :: rest)).map (·.id)).Sublist rule.approverIds := by
  have hroute : (d.chosen r (rule :: rest)).Sublist (d.resolve rule.approverIds) :=
    rule.routing.route_sublist r _
  refine (hroute.map _).trans ?_
  rw [map_id_resolve]
  exact List.filter_sublist

theorem Directory.mem_of_mem_chosen {d : Directory} {r : ApprovalRequest} {matched : List Rule}
    {a : Approver} (h : a ∈ d.chosen r matched) : a ∈ d.approvers := by
  cases matched with
  | nil => exact absurd h List.not_mem_nil
  | cons rule rest => exact (mem_of_mem_resolve ((rule.routing.route_sublist r _).subset h)).1

end InvoiceApproval
