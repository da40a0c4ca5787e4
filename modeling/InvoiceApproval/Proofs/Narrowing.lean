/-
What a routing makes of the candidates.

A narrowing routing has one of three outcomes, and the candidates decide which (`Narrowed`).
Those who have the role and belong to the department take the request, all of them and in the
order of the rule.  If there are none, the first one of the role takes it alone, wherever that
one belongs.  If nobody has the role, nobody takes it.

The outcomes exclude each other, so this says all that a routing does (`narrowed_iff`), and what
else there is to know follows from it.  Whoever belongs to no department can only come in by the
second outcome.  Candidates of the other role are never looked at.  And what has been narrowed
stays as it is when it is narrowed again.
-/
import InvoiceApproval.Proofs.Selection

namespace InvoiceApproval

namespace Routing

variable {isManager : Bool} {department : Department} {candidates : List Approver}

/-- The routing that narrows to a role. -/
def ofRole : Bool → Routing
  | true => managerInDepartment
  | false => nonManagerInDepartment

/-- A candidate has a role and belongs to a department. -/
def Fits (isManager : Bool) (department : Department) (a : Approver) : Prop :=
  a.isManager = isManager ∧ a.department = some department

instance (isManager : Bool) (department : Department) :
    DecidablePred (Fits isManager department) :=
  fun _ => inferInstanceAs (Decidable (_ ∧ _))

/-- Who is left of the candidates for a role in a department. -/
inductive Narrowed (isManager : Bool) (department : Department) (candidates : List Approver) :
    List Approver → Prop
  /-- All who fit, in their order, if somebody does. -/
  | own {a : Approver} : a ∈ candidates → Fits isManager department a →
    Narrowed isManager department candidates (candidates.filter (Fits isManager department))
  /-- Nobody fits, but there is a first one of the role. -/
  | first {before : List Approver} {a : Approver} {after : List Approver} :
    candidates = before ++ a :: after → a.isManager = isManager →
    (∀ b ∈ before, b.isManager ≠ isManager) → (∀ b ∈ candidates, ¬ Fits isManager department b) →
    Narrowed isManager department candidates [a]
  /-- Nobody has the role. -/
  | nobody : (∀ b ∈ candidates, b.isManager ≠ isManager) →
    Narrowed isManager department candidates []

/-! ### The three outcomes -/

theorem filter_filter_role (isManager : Bool) (department : Department)
    (candidates : List Approver) :
    (candidates.filter (·.isManager == isManager)).filter (·.belongsTo department)
      = candidates.filter (Fits isManager department) := by
  rw [List.filter_filter]
  refine List.filter_congr ?_
  intro a _
  rw [Bool.eq_iff_iff, decide_eq_true_iff]
  simp [Fits, Approver.belongsTo, and_comm]

theorem mem_filter_fits {a : Approver} : a ∈ candidates.filter (Fits isManager department)
    ↔ a ∈ candidates ∧ Fits isManager department a := by
  rw [List.mem_filter, decide_eq_true_iff]

theorem narrow_of_fits {a : Approver} (ha : a ∈ candidates) (hfits : Fits isManager department a) :
    narrow isManager department candidates = candidates.filter (Fits isManager department) := by
  have hne : candidates.filter (Fits isManager department) ≠ [] :=
    List.ne_nil_of_mem (mem_filter_fits.2 ⟨ha, hfits⟩)
  unfold narrow
  dsimp only
  rw [filter_filter_role]
  split
  · rename_i hnil
    exact absurd hnil hne
  · rfl

/-- Where nobody fits, the first one of the role is left. -/
theorem narrow_of_not_fits (h : ∀ b ∈ candidates, ¬ Fits isManager department b) :
    narrow isManager department candidates
      = (candidates.filter (·.isManager == isManager)).take 1 := by
  have hnil : candidates.filter (Fits isManager department) = [] := by
    rw [List.filter_eq_nil_iff]
    intro b hb
    simpa using h b hb
  unfold narrow
  dsimp only
  rw [filter_filter_role, hnil]

theorem narrowed_narrow (isManager : Bool) (department : Department)
    (candidates : List Approver) :
    Narrowed isManager department candidates (narrow isManager department candidates) := by
  by_cases hfits : ∃ a ∈ candidates, Fits isManager department a
  · obtain ⟨a, ha, hfits⟩ := hfits
    rw [narrow_of_fits ha hfits]
    exact .own ha hfits
  · have hnone : ∀ b ∈ candidates, ¬ Fits isManager department b :=
      fun b hb hb' => hfits ⟨b, hb, hb'⟩
    rw [narrow_of_not_fits hnone]
    cases hrole : candidates.filter (·.isManager == isManager) with
    | nil =>
        rw [List.filter_eq_nil_iff] at hrole
        exact .nobody fun b hb => by simpa using hrole b hb
    | cons a rest =>
        obtain ⟨before, after, hcandidates, hbefore, ha, -⟩ := List.filter_eq_cons_iff.1 hrole
        exact .first hcandidates (by simpa using ha) (fun b hb => by simpa using hbefore b hb) hnone

/-- **Each outcome is what the routing gives in its case**, so there is no other. -/
theorem narrowed_iff {chosen : List Approver} : Narrowed isManager department candidates chosen
    ↔ narrow isManager department candidates = chosen := by
  constructor
  · intro h
    cases h with
    | own ha hfits => exact narrow_of_fits ha hfits
    | first hcandidates ha hbefore hnone =>
        rw [narrow_of_not_fits hnone, hcandidates, List.filter_append,
          List.filter_eq_nil_iff.2 (by simpa using hbefore), List.filter_cons_of_pos (by simpa using ha)]
        rfl
    | nobody hnobody =>
        rw [narrow_of_not_fits fun b hb hfits => hnobody b hb hfits.1,
          List.filter_eq_nil_iff.2 (by simpa using hnobody)]
        rfl
  · rintro rfl
    exact narrowed_narrow _ _ _

theorem route_ofRole (isManager : Bool) (r : ApprovalRequest) (candidates : List Approver) :
    (ofRole isManager).route r candidates = narrow isManager r.department candidates := by
  cases isManager <;> rfl

/-! ### What follows -/

namespace Narrowed

variable {chosen : List Approver} (h : Narrowed isManager department candidates chosen)
include h

theorem isManager_eq {a : Approver} (ha : a ∈ chosen) : a.isManager = isManager := by
  cases h with
  | own => exact (mem_filter_fits.1 ha).2.1
  | first _ hrole => rwa [List.mem_singleton.1 ha]
  | nobody => exact absurd ha List.not_mem_nil

theorem eq_nil_iff : chosen = [] ↔ ∀ a ∈ candidates, a.isManager ≠ isManager := by
  cases h with
  | own ha hfits =>
      refine iff_of_false ?_ fun hnobody => hnobody _ ha hfits.1
      exact List.ne_nil_of_mem (mem_filter_fits.2 ⟨ha, hfits⟩)
  | first hcandidates ha =>
      refine iff_of_false (List.cons_ne_nil _ _) fun hnobody => hnobody _ ?_ ha
      rw [hcandidates]
      simp
  | nobody hnobody => exact iff_of_true rfl hnobody

/-- **Whoever belongs to another department, or to none, takes the request alone**, and only
because nobody fits. -/
theorem alone_of_department_ne {a : Approver} (ha : a ∈ chosen)
    (hdepartment : a.department ≠ some department) :
    chosen = [a] ∧ ∀ b ∈ candidates, ¬ Fits isManager department b := by
  cases h with
  | own => exact absurd (mem_filter_fits.1 ha).2.2 hdepartment
  | first _ _ _ hnone =>
      obtain rfl := List.mem_singleton.1 ha
      exact ⟨rfl, hnone⟩
  | nobody => exact absurd ha List.not_mem_nil

/-- What has been narrowed is narrow. -/
theorem again : Narrowed isManager department chosen chosen := by
  cases h with
  | own ha hfits =>
      have hself := Narrowed.own (mem_filter_fits.2 ⟨ha, hfits⟩) hfits
      rwa [List.filter_filter, List.filter_congr fun _ _ => Bool.and_self _] at hself
  | @first _ a _ hcandidates hrole _ hnone =>
      have hself : [a] = [] ++ a :: [] := rfl
      refine .first hself hrole (fun _ hb => absurd hb List.not_mem_nil) ?_
      intro b hb
      obtain rfl := List.mem_singleton.1 hb
      exact hnone b (by simp [hcandidates])
  | nobody => exact .nobody fun _ hb => absurd hb List.not_mem_nil

end Narrowed

/-- **Candidates of the other role are not looked at.** -/
theorem narrow_congr {others : List Approver}
    (h : others.filter (·.isManager == isManager) = candidates.filter (·.isManager == isManager)) :
    narrow isManager department others = narrow isManager department candidates := by
  unfold narrow
  rw [h]

/-- **Routing once is enough.** -/
theorem route_route (k : Routing) (r : ApprovalRequest) (candidates : List Approver) :
    k.route r (k.route r candidates) = k.route r candidates := by
  cases k with
  | managerInDepartment => exact narrowed_iff.1 (narrowed_narrow true r.department candidates).again
  | nonManagerInDepartment =>
      exact narrowed_iff.1 (narrowed_narrow false r.department candidates).again
  | unfiltered => rfl

/--
**A narrowing routing leaves those of the department, else the first one of the role.**

It has the outcome that the candidates call for, and no other: some of the candidates, in their
order, all of the role, and nobody only if nobody has the role.  An approver without a department
is left only as the one to fall back on.  Lists that agree in the candidates of the role, whatever
others stand between them, are routed alike.  No routing changes what it has left.
-/
theorem route_refines (r : ApprovalRequest) (candidates : List Approver) :
    (∀ isManager chosen, Narrowed isManager r.department candidates chosen
      ↔ (ofRole isManager).route r candidates = chosen) ∧
    (∀ isManager, let chosen := (ofRole isManager).route r candidates
      chosen.Sublist candidates ∧ (∀ a ∈ chosen, a.isManager = isManager) ∧
      (chosen = [] ↔ ∀ a ∈ candidates, a.isManager ≠ isManager) ∧
      (∀ a ∈ chosen, a.department = none →
        chosen = [a] ∧ ∀ b ∈ candidates, ¬ Fits isManager r.department b) ∧
      ∀ others, others.filter (·.isManager == isManager)
          = candidates.filter (·.isManager == isManager) →
        (ofRole isManager).route r others = chosen) ∧
    ∀ k : Routing, k.route r (k.route r candidates) = k.route r candidates := by
  refine ⟨?_, ?_, fun k => k.route_route r candidates⟩
  · intro isManager chosen
    rw [route_ofRole]
    exact narrowed_iff
  · intro isManager
    have hnarrowed := narrowed_narrow isManager r.department candidates
    simp only [route_ofRole]
    refine ⟨narrow_sublist _ _ _, fun a ha => hnarrowed.isManager_eq ha, hnarrowed.eq_nil_iff, ?_,
      fun others h => narrow_congr h⟩
    intro a ha hnone
    exact hnarrowed.alone_of_department_ne ha (by simp [hnone])

/-- An employee of the sales department. -/
def seller : Approver := ⟨"emp-1", "John Smith", "john.smith@company.com", some .sales, false⟩

/-- A manager who answers for the whole company. -/
def director : Approver := ⟨"ceo", "CEO", "ceo@company.com", none, true⟩

/-- A request of a department that neither of them belongs to. -/
def elsewhere : ApprovalRequest := ⟨.ofNat 700, .hr, false, rfl⟩

theorem route_refines_unattached :
    director.department = none ∧
    Narrowed true elsewhere.department [seller, director, seller] [director] ∧
    (ofRole true).route elsewhere [seller, director, seller] = [director] ∧
    (∀ b ∈ [seller, director, seller], ¬ Fits true elsewhere.department b) ∧
    [director].filter (·.isManager == true)
      = [seller, director, seller].filter (·.isManager == true) ∧
    (ofRole true).route elsewhere [director] = [director] := by
  obtain ⟨houtcome, hleft, -⟩ := route_refines elsewhere [seller, director, seller]
  have hroute : (ofRole true).route elsewhere [seller, director, seller] = [director] := rfl
  obtain ⟨-, -, -, halone, hothers⟩ := hleft true
  have hdirector := halone director (by rw [hroute]; exact List.mem_singleton_self _) rfl
  exact ⟨rfl, (houtcome true [director]).2 hroute, hdirector.1, hdirector.2, rfl,
    (hothers [director] rfl).trans hroute⟩

end Routing

end InvoiceApproval
