/-
Approvers that a rule names and nobody has.

They are looked for twice.  When a catalog is reviewed, each entry of a rule for which there
is no approver is warned of; when the rule decides a request, its entries are looked up and
those that are not found are left out.  The review searches the list of approvers, a run
searches the directory that was made of it, and since no two approvers of a reviewed catalog
have one id, the directory holds just that list (`Directory.approvers_ofList`).  So the two
agree entry by entry (`isUnknown_approvers`), and what a run leaves out has been warned of
before, as often as the rule names it.

A warning names a rule by its id.  That the warnings with an id are those of one rule rests
on the ids of rules being different (`filter_isUnknownFor_flatMap`).
-/
import InvoiceApproval.Proofs.Catalog.Faults

namespace InvoiceApproval

namespace Event

/-- Whether an event warns that a rule of this id names an approver who does not exist. -/
def isUnknownFor (ruleId : String) (e : Event) : Bool :=
  e.name == "system.catalog.unknown_approver" && e.details.lookup "rule_id" == some ruleId

/-- Whether an event tells that some entries of a rule were not found. -/
def isUnresolved (e : Event) : Bool := e.name == "workflow.approvers.unresolved"

end Event

/-! ### Warnings of a rule -/

namespace Rule

theorem isUnknownFor_unknownApproverEvent (rule : Rule) (id ruleId : String) :
    (Catalog.unknownApproverEvent rule id).isUnknownFor ruleId = (rule.id == ruleId) := by
  simp [Event.isUnknownFor, Catalog.unknownApproverEvent, Catalog.bootstrapDetail, List.lookup]

theorem filter_isUnknownFor_warnings (approvers : List Approver) (rule : Rule) (ruleId : String) :
    (rule.warnings approvers).filter (·.isUnknownFor ruleId)
      = if rule.id = ruleId then rule.unknownWarnings approvers else [] := by
  have hcondition : rule.conditionWarning?.toList.filter (·.isUnknownFor ruleId) = [] := by
    rw [conditionWarning?]
    cases rule.condition.firstUnordered with
    | none => rfl
    | some complaint => simp [Event.isUnknownFor, Catalog.unsatisfiableEvent]
  rw [warnings, List.filter_append, hcondition, List.nil_append, unknownWarnings, List.filter_map]
  by_cases h : rule.id = ruleId
  · rw [if_pos h, List.filter_eq_self.2]
    intro id _
    simp [isUnknownFor_unknownApproverEvent, h]
  · rw [if_neg h, List.filter_eq_nil_iff.2, List.map_nil]
    intro id _
    simp [isUnknownFor_unknownApproverEvent, h]

/-- **The warnings that bear the id of a rule are about that rule.** -/
theorem filter_isUnknownFor_flatMap (approvers : List Approver) {rules : List Rule}
    (hids : (rules.map (·.id)).Nodup) {rule : Rule} (hrule : rule ∈ rules) :
    (rules.flatMap (warnings approvers)).filter (·.isUnknownFor rule.id)
      = rule.unknownWarnings approvers := by
  rw [List.filter_flatMap]
  simp only [filter_isUnknownFor_warnings]
  induction rules with
  | nil => cases hrule
  | cons other rules ih =>
      rw [List.map_cons, List.nodup_cons] at hids
      rw [List.flatMap_cons]
      rcases List.mem_cons.1 hrule with rfl | hrule
      · have hnone : ∀ x ∈ rules, (if x.id = rule.id then x.unknownWarnings approvers else []) = [] := by
          intro x hx
          rw [if_neg]
          intro hid
          exact hids.1 (List.mem_map.2 ⟨x, hx, hid⟩)
        rw [if_pos rfl, List.flatMap_eq_nil_iff.2 hnone, List.append_nil]
      · have hother : other.id ≠ rule.id := by
          intro hid
          exact hids.1 (List.mem_map.2 ⟨rule, hrule, hid.symm⟩)
        rw [if_neg hother, List.nil_append, ih hids.2 hrule]

end Rule

/-! ### Looking up -/

namespace Directory

/-- The review and a directory know the same ids. -/
theorem isUnknown_approvers (d : Directory) :
    Rule.isUnknown d.approvers = fun id => !(d.find? id).isSome := by
  funext id
  have hany : d.approvers.any (·.id == id) = (d.find? id).isSome := by
    rw [Bool.eq_iff_iff, List.any_eq_true, Option.isSome_iff_exists]
    simp only [find?_eq_some_iff, beq_iff_eq]
  rw [Rule.isUnknown, hany]

/-- **Whatever is asked for is found, or counts as unknown.** -/
theorem length_resolve_add (d : Directory) (ids : List String) :
    (d.resolve ids).length + (ids.filter (Rule.isUnknown d.approvers)).length = ids.length := by
  rw [← List.length_map (·.id), map_id_resolve, isUnknown_approvers]
  exact (List.length_eq_length_filter_add _).symm

/-- Where every id is known, each of them is found in its turn. -/
theorem forall₂_resolve {d : Directory} {ids : List String}
    (h : ids.filter (Rule.isUnknown d.approvers) = []) :
    List.Forall₂ (fun id a => d.find? id = some a) ids (d.resolve ids) := by
  rw [isUnknown_approvers, List.filter_eq_nil_iff] at h
  induction ids with
  | nil => exact .nil
  | cons id ids ih =>
      rw [List.forall_mem_cons] at h
      cases hfind : d.find? id with
      | none => simp [hfind] at h
      | some a =>
          have hresolve : d.resolve (id :: ids) = a :: d.resolve ids :=
            List.filterMap_cons_some hfind
          rw [hresolve]
          exact .cons hfind (ih h.2)

end Directory

/-! ### Events of a run -/

/-- Nobody is told by an event that entries were not found. -/
theorem Notifier.filter_isUnresolved_events (n : Notifier) (r : ApprovalRequest)
    (as : List Approver) : (n.events r as).filter (·.isUnresolved) = [] := by
  cases n with
  | outbox => rfl
  | log channel =>
      rw [events, List.filter_map, List.map_eq_nil_iff, List.filter_eq_nil_iff]
      intro a _
      simp [Event.isUnresolved, Notice.event]

/-- While approvers are selected, that some were not found is told of the first rule alone, and
only if it names somebody who is unknown. -/
theorem filter_isUnresolved_selectionEvents (d : Directory) (r : ApprovalRequest)
    (matched : List Rule) :
    (selectionEvents (.available d) r matched).filter (·.isUnresolved)
      = matched.head?.elim [] fun rule =>
          if rule.approverIds.filter (Rule.isUnknown d.approvers) = [] then []
          else [rule.unresolvedEvent (d.resolve rule.approverIds)] := by
  cases matched with
  | nil => simp [selectionEvents, ApprovalRequest.unmatchedEvent, Event.isUnresolved]
  | cons rule rest =>
      have hlength := d.length_resolve_add rule.approverIds
      rw [selectionEvents, List.head?_cons, Option.elim_some]
      by_cases h : rule.approverIds.filter (Rule.isUnknown d.approvers) = []
      · rw [h, List.length_nil, Nat.add_zero] at hlength
        simp only [if_pos h, if_neg (Nat.not_lt.2 (Nat.le_of_eq hlength.symm)), List.filter_nil]
      · have hpos := List.length_pos_of_ne_nil h
        have hlt : (d.resolve rule.approverIds).length < rule.approverIds.length := by omega
        simp only [if_neg h, if_pos hlt]
        rfl

/-- Of a whole run the same holds. -/
theorem Engine.filter_isUnresolved_told (c : Configuration) (d : Directory) (notifier : Notifier)
    (r : ApprovalRequest) :
    (Engine.told ⟨.available c, .available d, notifier⟩ r).filter (·.isUnresolved)
      = (Rule.matching c.rules r).head?.elim [] fun rule =>
          if rule.approverIds.filter (Rule.isUnknown d.approvers) = [] then []
          else [rule.unresolvedEvent (d.resolve rule.approverIds)] := by
  have hselected (as : List Approver) : (selectedEvent as).isUnresolved = false := by
    simp [Event.isUnresolved, selectedEvent]
  have hmatched : (c.matchedEvent (Rule.matching c.rules r)).isUnresolved = false := by
    simp [Event.isUnresolved, Configuration.matchedEvent]
  have hstarted : r.startedEvent.isUnresolved = false := by
    simp [Event.isUnresolved, ApprovalRequest.startedEvent]
  rw [← filter_isUnresolved_selectionEvents d r, told_available]
  simp [hstarted, hmatched, hselected, Notifier.filter_isUnresolved_events]

namespace Catalog

variable {raw origin : String} {strict : Bool} {j left : Journal} {c : Catalog}

/-- The approver whom a catalog declares under an id. -/
structure Declares (c : Catalog) (id : String) (a : Approver) : Prop where
  mem : a ∈ c.approvers
  id_eq : a.id = id
  unique : ∀ b ∈ c.approvers, b.id = id → b = a

theorem declares_of_find?_directory (hids : (c.approvers.map (·.id)).Nodup) {id : String}
    {a : Approver} (h : c.directory.find? id = some a) : c.Declares id a := by
  obtain ⟨hmem, hid⟩ := Directory.mem_of_find?_eq_some h
  rw [directory, Directory.approvers_ofList hids] at hmem
  refine ⟨hmem, hid, ?_⟩
  intro b hb hbid
  exact List.inj_on_of_nodup_map hids hb hmem (hbid.trans hid.symm)

section

variable (h : (parse raw origin strict).run j = (.ok c, left)) {r : ApprovalRequest} {rule : Rule}
  (hfirst : Rule.IsFirst c.configuration.rules r rule)
include h hfirst

/-- What a run tells of entries not found, in terms of the catalog. -/
theorem filter_isUnresolved_told_of_isFirst (notifier : Notifier) :
    ((c.engine notifier).told r).filter (·.isUnresolved)
      = if rule.approverIds.filter (Rule.isUnknown c.approvers) = [] then []
        else [rule.unresolvedEvent (c.directory.resolve rule.approverIds)] := by
  have hids := ids_nodup_of_parse h
  have htold := Engine.filter_isUnresolved_told c.configuration c.directory notifier r
  rw [Rule.head?_matching_eq_some_iff.2 hfirst, Option.elim_some, directory,
    Directory.approvers_ofList hids] at htold
  exact htold

/-- Where nobody on the first rule is unknown, a run chooses among those whom the catalog
declares. -/
theorem selected_of_known (hknown : rule.approverIds.filter (Rule.isUnknown c.approvers) = [])
    (notifier : Notifier) (k : Journal) :
    ∃ found o, List.Forall₂ c.Declares rule.approverIds found ∧
      ((c.engine notifier).run r k).1 = .ok o ∧ o.selected = rule.routing.route r found := by
  have hids := ids_nodup_of_parse h
  refine ⟨c.directory.resolve rule.approverIds, _, ?_,
    (Engine.run_available c.configuration c.directory notifier r k).1, ?_⟩
  · rw [← Directory.approvers_ofList hids] at hknown
    refine (Directory.forall₂_resolve hknown).imp ?_
    intro id a hfind
    exact declares_of_find?_directory hids hfind
  · obtain ⟨rest, hrest⟩ := List.head?_eq_some_iff.1 (Rule.head?_matching_eq_some_iff.2 hfirst)
    simp only [hrest]
    rfl

end

/--
**Whom a catalog was warned of is whom its runs leave out.**

A run with a catalog that has been read tells that approvers were not found exactly if the
first rule that holds was warned of because of an approver who does not exist.  It tells so
once, and what it asked for is more than what it found by the number of those warnings.  If
there was no such warning, every entry of the rule is found, in order, and is the approver
whom the catalog declares; the routing of the rule then chooses among these.
-/
theorem warnings_predict_unresolved (h : (parse raw origin strict).run j = (.ok c, left))
    (notifier : Notifier) (r : ApprovalRequest) (k : Journal) :
    ∃ warned told, left = j.extend warned [] ∧
      ((c.engine notifier).run r k).2.events = k.events ++ told ∧
      ((∃ e ∈ told, e.isUnresolved = true) ↔ ∃ rule, Rule.IsFirst c.configuration.rules r rule ∧
        ∃ e ∈ warned, e.isUnknownFor rule.id = true) ∧
      ∀ rule, Rule.IsFirst c.configuration.rules r rule →
        let missing := (warned.filter (·.isUnknownFor rule.id)).length
        (missing ≠ 0 → ∃ e requested resolved, told.filter (·.isUnresolved) = [e] ∧
          e.details = [("rule_id", rule.id), ("requested", toString (requested : Nat)),
            ("resolved", toString (resolved : Nat))] ∧
          resolved ≤ requested ∧ requested - resolved = missing) ∧
        (missing = 0 → ∃ found o, List.Forall₂ c.Declares rule.approverIds found ∧
          ((c.engine notifier).run r k).1 = .ok o ∧ o.selected = rule.routing.route r found) := by
  obtain ⟨-, hwell, hleft⟩ := parse_run_eq_ok_iff.1 h
  have hwarned {rule : Rule} (hfirst : Rule.IsFirst c.configuration.rules r rule) :=
    Rule.filter_isUnknownFor_flatMap c.approvers hwell.rules_distinct hfirst.mem
  have htold {rule : Rule} (hfirst : Rule.IsFirst c.configuration.rules r rule) :=
    filter_isUnresolved_told_of_isFirst h hfirst notifier
  have hsome {es : List Event} {p : Event → Bool} :
      (∃ e ∈ es, p e = true) ↔ es.filter p ≠ [] := by simp
  refine ⟨_, _, hleft, by rw [Engine.run_eq]; rfl, ?_, ?_⟩
  · constructor
    · intro hunresolved
      rw [hsome] at hunresolved
      cases hhead : (Rule.matching c.configuration.rules r).head? with
      | none =>
          have hnone := Engine.filter_isUnresolved_told c.configuration c.directory notifier r
          rw [hhead] at hnone
          exact absurd hnone hunresolved
      | some rule =>
          have hfirst := Rule.head?_matching_eq_some_iff.1 hhead
          refine ⟨rule, hfirst, ?_⟩
          rw [hsome, hwarned hfirst, Rule.unknownWarnings, ne_eq, List.map_eq_nil_iff]
          intro hknown
          rw [htold hfirst, if_pos hknown] at hunresolved
          exact hunresolved rfl
    · rintro ⟨rule, hfirst, hunknown⟩
      rw [hsome, hwarned hfirst, Rule.unknownWarnings, ne_eq, List.map_eq_nil_iff] at hunknown
      rw [hsome, htold hfirst, if_neg hunknown]
      exact List.cons_ne_nil _ _
  · intro rule hfirst
    simp only [hwarned hfirst, htold hfirst, Rule.unknownWarnings, List.length_map]
    constructor
    · intro hmissing
      have hlength := c.directory.length_resolve_add rule.approverIds
      rw [directory, Directory.approvers_ofList hwell.approvers_distinct] at hlength
      refine ⟨_, rule.approverIds.length, (c.directory.resolve rule.approverIds).length,
        if_neg (mt List.length_eq_zero_iff.2 hmissing), rfl, ?_, ?_⟩
      · exact hlength ▸ Nat.le_add_right _ _
      · exact Nat.sub_eq_of_eq_add' hlength.symm
    · intro hmissing
      exact selected_of_known h hfirst (List.length_eq_zero_iff.1 hmissing) notifier k

/-- A catalog whose rule names two people who do not exist, one of them twice. -/
def ofStrangers : Catalog := ofOneRule ["nobody", "cfo", "stranger", "nobody"]

/-- That catalog as a text. -/
def strangersText : String := oneRuleText "\"nobody\", \"cfo\", \"stranger\", \"nobody\""

theorem warnings_predict_unresolved_strangers :
    ∃ left, (parse strangersText "inline" true).run Journal.empty = (.ok ofStrangers, left) ∧
      (left.events.filter (·.isUnknownFor "all")).length = 3 ∧
      ∃ e requested resolved,
        ((ofStrangers.engine .outbox).run smallInvoice Journal.empty).2.events.filter
          (·.isUnresolved) = [e] ∧
        e.details = [("rule_id", "all"), ("requested", toString (requested : Nat)),
          ("resolved", toString (resolved : Nat))] ∧
        resolved ≤ requested ∧ requested - resolved = 3 := by
  have hparse : (parse strangersText "inline" true).run Journal.empty = (.ok ofStrangers, _) :=
    parse_run_eq_ok_iff.2 ⟨by decide +kernel, faults_eq_nil_iff.1 (by decide +kernel), rfl⟩
  have hfirst : Rule.IsFirst ofStrangers.configuration.rules smallInvoice
      ofStrangers.configuration.rules[0] := by
    rw [← Rule.head?_matching_eq_some_iff]
    exact congrArg List.head? (matching_ofOneRule _ _)
  obtain ⟨warned, told, hleft, htold, -, hrule⟩ :=
    warnings_predict_unresolved hparse .outbox smallInvoice Journal.empty
  have hcount : (warned.filter (·.isUnknownFor "all")).length = 3 := by
    have hwarned : _ = warned := congrArg Journal.events hleft
    rw [← hwarned]
    decide +kernel
  have hmissing : (warned.filter
      (·.isUnknownFor ofStrangers.configuration.rules[0].id)).length ≠ 0 := by
    refine ne_of_eq_of_ne hcount ?_
    decide
  obtain ⟨e, requested, resolved, he, hdetails, hle, hsub⟩ := (hrule _ hfirst).1 hmissing
  refine ⟨_, hparse, ?_, e, requested, resolved, ?_, hdetails, hle, hsub.trans hcount⟩
  · rw [hleft]
    exact hcount
  · rw [htold]
    exact he

end Catalog

end InvoiceApproval
