/-
What the checks of the program say about the service.

Two parts of the program tell whether it is ready, and neither knows of the other.  The command
that makes the checks counts what the catalog holds, while the service is started first and
then asks its stores.  But the service starts with the same settings and the same catalog, and
its stores hold what stands in the catalog.  So there are four worlds (`Check.Went`): the settings
do not load, the catalog does not load, something is missing from it, or all is well.  Only in
the last of them every check passes, and only there a service starts that says it is ready.

The sample cannot fail.  Its stores have been loaded by then, so nothing is left in a run
that could go wrong.
-/
import InvoiceApproval.Command.Doctor
import InvoiceApproval.Proofs.FrontEnds

namespace InvoiceApproval

/-- Whether neither approvers nor rules are missing from a catalog. -/
def Catalog.Stocked (c : Catalog) : Prop :=
  c.directory.size ≠ 0 ∧ c.configuration.rules.length ≠ 0

/-! ### The service -/

namespace Server

/-- In this world the service starts, and works with this engine. -/
def Starts (w : World) (e : Engine) : Prop :=
  ∃ s, Settings.load w .none = .ok s ∧ start w s = .ok e

theorem starts_iff {w : World} {e : Engine} : Starts w e ↔ ∃ s c,
    Settings.load w .none = .ok s ∧ Catalog.ofSettings? w s = .ok c ∧
      c.engine (.log s.channel) = e := by
  refine exists_congr fun s => ?_
  unfold start
  cases Catalog.ofSettings? w s <;> simp

/-- A message that asks how the service stands. -/
structure AsksHealth (m : WebRequest) : Prop where
  method : m.method = "GET"
  path : m.path = Route.health.path

/-- An answer with this status, which names this state of the service. -/
structure Says (status : Nat) (state : String) (a : WebResponse) : Prop where
  status : a.status = status
  state : (Data.ofJson? a.body).bind (·.field? "status") = some (.text state)

/-- The answer that the service is ready. -/
abbrev SaysReady : WebResponse → Prop := Says 200 "ready"

/-- The answer that the service is not ready. -/
abbrev SaysDegraded : WebResponse → Prop := Says 503 "degraded"

theorem answer_of_asksHealth {m : WebRequest} (h : AsksHealth m) (e : Engine) (now : String) :
    answer e now m = pure (health e now) := by
  have hroute : Route.ofPath? Route.health.path = some .health := by decide
  unfold answer
  rw [h.path, hroute]
  simp [h.method, Route.takes, serve]

theorem says_health (e : Engine) (now : String) :
    Says (if (Health.ofEngine e).ready then 200 else 503)
      (Readiness.statusName (Health.ofEngine e).ready) (health e now) := by
  have hwritable : ((Health.ofEngine e).toData now).Writable :=
    ⟨⟨trivial, ⟨⟨trivial, trivial, trivial⟩, rfl⟩, ⟨⟨trivial, trivial, trivial⟩, rfl⟩,
      trivial, trivial⟩, rfl⟩
  refine ⟨rfl, ?_⟩
  show (Data.ofJson? ((Health.ofEngine e).toData now).toJson).bind _ = _
  rw [Data.ofJson?_toJson hwritable]
  rfl

theorem Says.not_says {status status' : Nat} {state state' : String} {a : WebResponse}
    (h : Says status state a) (hstatus : status ≠ status') : ¬ Says status' state' a :=
  fun h' => hstatus (h.status.symm.trans h'.status)

theorem ready_ofCount {n : Nat} (label : String) :
    (Readiness.ofCount label (.ok n)).ready = true ↔ n ≠ 0 := by
  cases n <;> simp [Readiness.ofCount]

/-- **The stores of a service hold what stands in its catalog.** -/
theorem ready_ofEngine (c : Catalog) (n : Notifier) :
    (Health.ofEngine (c.engine n)).ready = true ↔ c.Stocked := by
  show ((Readiness.ofCount "rules" (.ok c.configuration.rules.length)).ready
    && (Readiness.ofCount "approvers" (.ok c.directory.size)).ready) = true ↔ _
  rw [Bool.and_eq_true, ready_ofCount, ready_ofCount, and_comm]
  rfl

/-- A service that works with a catalog says that it is ready, or that it is not. -/
theorem saysReady_of_stocked {c : Catalog} (h : c.Stocked) (n : Notifier) (now : String) :
    SaysReady (health (c.engine n) now) := by
  have hsays := says_health (c.engine n) now
  rwa [(ready_ofEngine c n).2 h] at hsays

theorem saysDegraded_of_not_stocked {c : Catalog} (h : ¬ c.Stocked) (n : Notifier) (now : String) :
    SaysDegraded (health (c.engine n) now) := by
  have hsays := says_health (c.engine n) now
  have hready : (Health.ofEngine (c.engine n)).ready = false := by
    rw [← Bool.not_eq_true, ready_ofEngine]
    exact h
  rwa [hready] at hsays

end Server

/-! ### The checks -/

namespace Check

@[simp] theorem status_settings (status : CheckStatus) (details : String) :
    (settings status details).status = status := rfl

@[simp] theorem status_catalog (status : CheckStatus) (details : String) :
    (catalog status details).status = status := rfl

@[simp] theorem status_routing (status : CheckStatus) (details : String) :
    (routing status details).status = status := rfl

/-- How the checks go in a world. -/
inductive Went (w : World) : List Check → Prop
  | unset {cause : SettingsError} (found : String) (reason reason' : String) :
    Settings.load w .none = .error cause →
    Went w [settings .fail found, catalog .skipped reason, routing .skipped reason']
  | unloaded {s : Settings} {cause : CatalogError} (found found' reason : String) :
    Settings.load w .none = .ok s → Catalog.ofSettings? w s = .error cause →
    Went w [settings .pass found, catalog .fail found', routing .skipped reason]
  | bare {s : Settings} {c : Catalog} (found found' found'' : String) :
    Settings.load w .none = .ok s → Catalog.ofSettings? w s = .ok c → ¬ c.Stocked →
    Went w [settings .pass found, catalog .fail found', routing .pass found'']
  | ready {s : Settings} {c : Catalog} (found found' found'' : String) :
    Settings.load w .none = .ok s → Catalog.ofSettings? w s = .ok c → c.Stocked →
    Went w [settings .pass found, catalog .pass found', routing .pass found'']

/-- **The sample runs on whatever catalog has been loaded.** -/
theorem exists_ofSample (c : Catalog) : ∃ found, ofSample c = routing .pass found := by
  obtain ⟨o, -, hdecision⟩ := c.exists_decision sample
  unfold ofSample
  rw [Engine.run_eq, hdecision]
  exact ⟨_, rfl⟩

theorem exists_ofCatalog_of_stocked {c : Catalog} (h : c.Stocked) (path : Option String) :
    ∃ found, ofCatalog path c = catalog .pass found := by
  unfold ofCatalog
  rw [if_neg (not_or.2 h)]
  exact ⟨_, rfl⟩

theorem exists_ofCatalog_of_not_stocked {c : Catalog} (h : ¬ c.Stocked) (path : Option String) :
    ∃ found, ofCatalog path c = catalog .fail found := by
  have hmissing : c.directory.size = 0 ∨ c.configuration.rules.length = 0 := by
    by_contra hnone
    exact h (not_or.1 hnone)
  unfold ofCatalog
  rw [if_pos hmissing]
  exact ⟨_, rfl⟩

/-- **The checks go in one of four ways.** -/
theorem went_all (w : World) : Went w (all w) := by
  unfold all
  cases hload : Settings.load w .none with
  | error cause => exact .unset _ _ _ hload
  | ok s =>
      dsimp only
      cases hcatalog : Catalog.ofSettings? w s with
      | error cause => exact .unloaded _ _ _ hload hcatalog
      | ok c =>
          dsimp only
          obtain ⟨sampled, hsample⟩ := exists_ofSample c
          rw [hsample]
          by_cases hstocked : c.Stocked
          · obtain ⟨counted, hcounted⟩ := exists_ofCatalog_of_stocked hstocked s.catalogPath
            rw [hcounted]
            exact .ready _ _ _ hload hcatalog hstocked
          · obtain ⟨counted, hcounted⟩ := exists_ofCatalog_of_not_stocked hstocked s.catalogPath
            rw [hcounted]
            exact .bare _ _ _ hload hcatalog hstocked

/-- Every check has passed exactly if there is a catalog that nothing is missing from. -/
theorem Went.passed_iff {w : World} {checks : List Check} (h : Went w checks) :
    (Diagnosis.mk checks).passed = true ↔ ∃ s c,
      Settings.load w .none = .ok s ∧ Catalog.ofSettings? w s = .ok c ∧ c.Stocked := by
  cases h with
  | unset _ _ _ hload =>
      refine iff_of_false nofun ?_
      rintro ⟨s, c, hload', -, -⟩
      exact nomatch hload.symm.trans hload'
  | unloaded _ _ _ hload hcatalog =>
      refine iff_of_false nofun ?_
      rintro ⟨s, c, hload', hcatalog', -⟩
      obtain rfl := Except.ok.inj (hload.symm.trans hload')
      exact nomatch hcatalog.symm.trans hcatalog'
  | bare _ _ _ hload hcatalog hstocked =>
      refine iff_of_false nofun ?_
      rintro ⟨s, c, hload', hcatalog', hstocked'⟩
      obtain rfl := Except.ok.inj (hload.symm.trans hload')
      obtain rfl := Except.ok.inj (hcatalog.symm.trans hcatalog')
      exact hstocked hstocked'
  | ready _ _ _ hload hcatalog hstocked =>
      exact iff_of_true rfl ⟨_, _, hload, hcatalog, hstocked⟩

/-- The order of the checks, and what they have to do with one another. -/
structure InOrder (checks : List Check) : Prop where
  names : checks.map Check.name = ["config_validation", "catalog_load", "sample_routing"]
  /-- A check is skipped only behind one that has failed. -/
  skipped : ∀ before c after, checks = before ++ c :: after → c.status = .skipped →
    ∃ b ∈ before, b.status = .fail
  /-- The sample does not fail. -/
  sampled : ∀ c ∈ checks, c.name = "sample_routing" → c.status ≠ .fail

/-- Of three checks each is skipped only behind one that has failed, if this holds of the
second and of the third, and the first is made. -/
theorem skipped_of_three {a b c : Check} (ha : a.status ≠ .skipped)
    (hb : b.status = .skipped → a.status = .fail)
    (hc : c.status = .skipped → a.status = .fail ∨ b.status = .fail)
    {before : List Check} {x : Check} {after : List Check} (h : [a, b, c] = before ++ x :: after)
    (hx : x.status = .skipped) : ∃ y ∈ before, y.status = .fail := by
  rcases before with _ | ⟨y, _ | ⟨z, _ | ⟨_, before⟩⟩⟩
  all_goals simp only [List.cons_append, List.nil_append, List.cons.injEq] at h
  · obtain ⟨rfl, -⟩ := h
    exact absurd hx ha
  · obtain ⟨rfl, rfl, -⟩ := h
    exact ⟨a, .head _, hb hx⟩
  · obtain ⟨rfl, rfl, rfl, -⟩ := h
    rcases hc hx with hfail | hfail
    · exact ⟨a, .head _, hfail⟩
    · exact ⟨b, .tail _ (.head _), hfail⟩
  · simp at h

theorem Went.inOrder {w : World} {checks : List Check} (h : Went w checks) : InOrder checks := by
  refine ⟨by cases h <;> rfl, ?_, ?_⟩
  · intro before c after heq hskipped
    cases h with
    | unset => exact skipped_of_three (by simp) (by simp) (by simp) heq hskipped
    | unloaded => exact skipped_of_three (by simp) (by simp) (by simp) heq hskipped
    | bare => exact skipped_of_three (by simp) (by simp) (by simp) heq hskipped
    | ready => exact skipped_of_three (by simp) (by simp) (by simp) heq hskipped
  · have hlast : ∀ c ∈ checks, c.name = "sample_routing" →
        c.status = .pass ∨ c.status = .skipped := by
      cases h <;> simp [settings, catalog, routing]
    intro c hc hname hfail
    rcases hlast c hc hname with hstatus | hstatus <;> exact nomatch hstatus.symm.trans hfail

end Check

/-! ### The answer -/

theorem Check.writable_toData (c : Check) : c.toData.Writable :=
  ⟨⟨trivial, trivial, trivial, trivial⟩, rfl⟩

theorem Diagnosis.writable_toData (d : Diagnosis) : d.toData.Writable := by
  have hchecks : (Data.list (d.checks.map Check.toData)).Writable := by
    show Data.ItemsWritable _
    rw [Data.itemsWritable_iff]
    intro x hx
    obtain ⟨c, -, rfl⟩ := List.mem_map.1 hx
    exact c.writable_toData
  exact ⟨⟨trivial, trivial, hchecks, trivial⟩, rfl⟩

/-- An answer that reports checks, as a document or as text. -/
structure Diagnosis.Reported (d : Diagnosis) (json : Bool) (a : Answer) : Prop where
  exitCode : a.exitCode = if d.passed then 0 else 1
  document : json = true → Data.ofJson? a.output = some d.toData
  /-- The document says that all is well exactly if the exit code does. -/
  overall : json = true →
    ((Data.ofJson? a.output).bind (·.field? "overall_status") = some (.text "pass")
      ↔ a.exitCode = 0)
  text : json = false → a.output = Answer.lines (d.summary :: d.checks.map Check.line)

theorem Diagnosis.reported_doctor (w : World) (json : Bool) :
    (Diagnosis.mk (Check.all w)).Reported json (Command.doctor w json) := by
  have hdocument : json = true → Data.ofJson? (Command.doctor w json).output
      = some (Diagnosis.mk (Check.all w)).toData := by
    rintro rfl
    exact Data.ofJson?_toIndentedJson (writable_toData _)
  refine ⟨rfl, hdocument, ?_, ?_⟩
  · intro hjson
    rw [hdocument hjson]
    show some (Data.text (if (Diagnosis.mk (Check.all w)).passed then CheckStatus.pass
      else CheckStatus.fail).name) = _ ↔ (if _ then 0 else 1) = 0
    cases (Diagnosis.mk (Check.all w)).passed <;> simp [CheckStatus.name]
  · rintro rfl
    rfl

/-! ### Both of them -/

/-- The service starts in a world, and answers a message like this. -/
def Server.Serves (w : World) (now : String) (m : WebRequest) (j : Journal)
    (P : WebResponse → Prop) : Prop :=
  ∃ e, Starts w e ∧ P ((answer e now m).run j).1

theorem Server.serves_health_iff {w : World} {m : WebRequest} (h : AsksHealth m) (now : String)
    (j : Journal) {P : WebResponse → Prop} : Serves w now m j P ↔ ∃ s c,
      Settings.load w .none = .ok s ∧ Catalog.ofSettings? w s = .ok c ∧
        P (health (c.engine (.log s.channel)) now) := by
  unfold Serves
  simp only [starts_iff, answer_of_asksHealth h]
  constructor
  · rintro ⟨e, ⟨s, c, hload, hcatalog, rfl⟩, hanswer⟩
    exact ⟨s, c, hload, hcatalog, hanswer⟩
  · rintro ⟨s, c, hload, hcatalog, hanswer⟩
    exact ⟨_, ⟨s, c, hload, hcatalog, rfl⟩, hanswer⟩

theorem Server.serves_ready_iff {w : World} {m : WebRequest} (h : AsksHealth m) (now : String)
    (j : Journal) : Serves w now m j SaysReady ↔ (Diagnosis.mk (Check.all w)).passed = true := by
  rw [serves_health_iff h, (Check.went_all w).passed_iff]
  refine exists_congr fun s => exists_congr fun c => and_congr_right fun _ =>
    and_congr_right fun _ => ?_
  constructor
  · intro hready
    by_contra hmissing
    exact hready.not_says (by decide) (saysDegraded_of_not_stocked hmissing _ now)
  · intro hstocked
    exact saysReady_of_stocked hstocked _ now

/--
**The command and the service agree on whether the program is ready.**

In every world the command ends well exactly if the service starts there and says that it is
ready.  Its report is about three checks, always the same and in the same order; one of them is
skipped only if one before it has failed, and the last of them never fails.
-/
theorem doctor_agrees_with_service (w : World) (json : Bool) (now : String) (j : Journal)
    {m : WebRequest} (h : Server.AsksHealth m) :
    ((Command.doctor w json).exitCode = 0 ↔ Server.Serves w now m j Server.SaysReady) ∧
      (Diagnosis.mk (Check.all w)).Reported json (Command.doctor w json) ∧
      Check.InOrder (Check.all w) := by
  have hreported := Diagnosis.reported_doctor w json
  refine ⟨?_, hreported, (Check.went_all w).inOrder⟩
  rw [hreported.exitCode, Server.serves_ready_iff h]
  simp

/-- A caller who asks how the service stands, with a word behind the path. -/
def healthProbe : WebRequest := ⟨"GET", "/health?verbose", none, ""⟩

/-- A world whose settings name a catalog without rules. -/
def worldWithoutRules : World where
  files := [("invoiceflow.toml", .text "[catalog]\npath = \"c.toml\"\n"),
    ("c.toml", .text "rules = []\n")]
  environment := []

theorem doctor_agrees_with_service_unruled :
    Server.AsksHealth healthProbe ∧
    (Server.Serves ⟨[], []⟩ "" healthProbe Journal.empty Server.SaysReady ∧
      Check.InOrder (Check.all ⟨[], []⟩)) ∧
    ¬ Server.Serves worldWithoutRules "" healthProbe Journal.empty Server.SaysReady ∧
      Check.InOrder (Check.all worldWithoutRules) := by
  have hasks : Server.AsksHealth healthProbe := ⟨rfl, by decide +kernel⟩
  obtain ⟨hseed, -, hseedOrder⟩ :=
    doctor_agrees_with_service ⟨[], []⟩ true "" Journal.empty hasks
  obtain ⟨hbare, -, hbareOrder⟩ :=
    doctor_agrees_with_service worldWithoutRules true "" Journal.empty hasks
  have hpassed : (Command.doctor ⟨[], []⟩ true).exitCode = 0 := by decide +kernel
  have hfailed : (Command.doctor worldWithoutRules true).exitCode = 1 := by decide +kernel
  refine ⟨hasks, ⟨hseed.1 hpassed, hseedOrder⟩, ?_, hbareOrder⟩
  intro hserves
  exact nomatch hfailed.symm.trans (hbare.2 hserves)

end InvoiceApproval
