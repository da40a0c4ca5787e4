/-
What the exit code of a command says of the settings.

Commands that work with the reference data load the settings first, and the exit code two is
kept for settings that do not load: no other failure has it (`exitCode_eq_two_iff`).  The
command that makes the checks has one exit code for all that can go wrong.

The command that shows the settings is the odd one.  Whoever reads what it prints can tell
whether the settings have loaded, but its exit code is zero in either case, so a script
cannot (`exitCode_config`).
-/
import InvoiceApproval.CommandLine
import InvoiceApproval.Proofs.Command.Readiness

namespace InvoiceApproval

/-- In this world the settings do not load. -/
def Settings.LoadFails (w : World) : Prop := ∃ cause, Settings.load w .none = .error cause

variable {w : World}

/-! ### Failures -/

namespace CommandFailure

theorem exitCode_eq_two_iff {f : CommandFailure} :
    f.exitCode = 2 ↔ ∃ cause, f = .settings cause := by
  cases f <;> simp [exitCode]

end CommandFailure

theorem Reference.load_eq_settings_iff {cause : SettingsError} :
    Reference.load w = .error (.settings cause) ↔ Settings.load w .none = .error cause := by
  unfold Reference.load
  cases Settings.load w .none with
  | error cause' => simp [Except.mapError, bind, Except.bind]
  | ok s =>
      simp only [Except.mapError, bind, Except.bind]
      cases Catalog.ofSettings? w s <;> simp [pure, Except.pure]

theorem Command.runInvoice_eq_settings_iff {i : Invoice} {cause : SettingsError} :
    runInvoice w i = .error (.settings cause) ↔ Settings.load w .none = .error cause := by
  rw [← Reference.load_eq_settings_iff]
  unfold runInvoice
  cases Reference.load w with
  | error f => simp [bind, Except.bind]
  | ok reference =>
      cases i.request with
      | error cause' => simp [Except.mapError, bind, Except.bind, CommandFailure.ofFailure]
      | ok r =>
          simp only [Except.mapError, bind, Except.bind, CommandFailure.ofFailure]
          cases ((reference.catalog.engine .outbox).run r Journal.empty).1 <;>
            simp [pure, Except.pure]

/-- The exit code of a step that may fail. -/
def exitCodeOf {α : Type} : Except CommandFailure α → Nat
  | .ok _ => 0
  | .error f => f.exitCode

theorem exitCodeOf_eq_two_iff {α : Type} {x : Except CommandFailure α} :
    exitCodeOf x = 2 ↔ ∃ cause, x = .error (.settings cause) := by
  cases x with
  | ok a => exact iff_of_false nofun nofun
  | error f => simp [exitCodeOf, CommandFailure.exitCode_eq_two_iff]

theorem Command.exitCode_execute (w : World) (i : Invoice) (json : Bool) :
    (execute w i json).exitCode = exitCodeOf (runInvoice w i) := by
  unfold execute
  cases runInvoice w i with
  | error f => rfl
  | ok done => cases json <;> simp only [Response.toIndentedJson?_eq_ok] <;> rfl

theorem Command.exitCode_rules (w : World) : (rules w).exitCode = exitCodeOf (Reference.load w) := by
  unfold rules
  cases Reference.load w <;> rfl

/-! ### Commands -/

/-- Whether a command works with the reference data. -/
def Invocation.usesReference : Invocation → Bool
  | execute .. | rules => true
  | departments | config | doctor _ => false

theorem Command.exitCode_doctor_of_loadFails (h : Settings.LoadFails w) (json : Bool) :
    (doctor w json).exitCode = 1 := by
  obtain ⟨cause, hload⟩ := h
  have hpassed : ¬ (Diagnosis.mk (Check.all w)).passed = true := by
    rw [(Check.went_all w).passed_iff]
    rintro ⟨s, c, hload', -, -⟩
    exact nomatch hload.symm.trans hload'
  rw [(Diagnosis.reported_doctor w json).exitCode, if_neg hpassed]

/-- **The exit code two stands for settings that do not load**, and for nothing else. -/
theorem Invocation.exitCode_eq_two_iff (v : Invocation) :
    (v.run w).exitCode = 2 ↔ Settings.LoadFails w ∧ v.usesReference = true := by
  cases v with
  | execute i json =>
      show (Command.execute w i json).exitCode = 2 ↔ _
      rw [Command.exitCode_execute, exitCodeOf_eq_two_iff]
      simp only [Command.runInvoice_eq_settings_iff, Settings.LoadFails, usesReference, and_true]
  | rules =>
      show (Command.rules w).exitCode = 2 ↔ _
      rw [Command.exitCode_rules, exitCodeOf_eq_two_iff]
      simp only [Reference.load_eq_settings_iff, Settings.LoadFails, usesReference, and_true]
  | departments => exact iff_of_false nofun nofun
  | config =>
      refine iff_of_false ?_ nofun
      show ¬ (Command.config w).exitCode = 2
      unfold Command.config
      split <;> exact nofun
  | doctor json =>
      refine iff_of_false ?_ nofun
      show ¬ (Command.doctor w json).exitCode = 2
      rw [(Diagnosis.reported_doctor w json).exitCode]
      split <;> exact nofun

theorem Command.exitCode_config (w : World) : (config w).exitCode = 0 := by
  unfold config
  split <;> rfl

/-- **What the command that shows the settings prints tells whether they have loaded.** -/
theorem Command.config_tells_failure_iff :
    (∃ reason, (config w).output = "config validation failed: " ++ reason)
      ↔ Settings.LoadFails w := by
  unfold config Settings.LoadFails
  cases Settings.load w .none with
  | error cause => exact iff_of_true ⟨cause.message, rfl⟩ ⟨cause, rfl⟩
  | ok s =>
      refine iff_of_false ?_ nofun
      rintro ⟨reason, houtput⟩
      -- The list of settings begins with another letter.
      have hmore : Settings.Key.all.map (settingLine w s) ≠ [] := List.cons_ne_nil _ _
      have heading : (Answer.lines ("effective config (source precedence: env > file > default):"
          :: Settings.Key.all.map (settingLine w s))).toList.head? = some 'e' := by
        rw [Answer.lines, String.intercalate_cons_of_ne_nil hmore]
        simp
      have hfailure : ("config validation failed: " ++ reason).toList.head? = some 'c' := by simp
      rw [← houtput] at hfailure
      exact absurd (hfailure.symm.trans heading) (by decide)

/--
**Whether the settings have loaded is told by every exit code but one.**

Where they do not load, the exit code is two for the commands that use the reference data, and
one for the checks.  The command that shows the settings ends with zero, whether they have
loaded or not; only what it prints differs.
-/
theorem settings_exit_codes (w : World) :
    (∀ v : Invocation, (v.run w).exitCode = 2 ↔ Settings.LoadFails w ∧ v.usesReference = true) ∧
    (Settings.LoadFails w → ∀ json, ((Invocation.doctor json).run w).exitCode = 1) ∧
    (Invocation.config.run w).exitCode = 0 ∧
    ((∃ reason, (Invocation.config.run w).output = "config validation failed: " ++ reason)
      ↔ Settings.LoadFails w) :=
  ⟨Invocation.exitCode_eq_two_iff, Command.exitCode_doctor_of_loadFails, Command.exitCode_config w,
    Command.config_tells_failure_iff⟩

/-- A world in which a variable gives a port that is none. -/
def worldWithoutPort : World := ⟨[], [("INVOICEFLOW_SERVER_PORT", "x")]⟩

theorem loadFails_worldWithoutPort : Settings.LoadFails worldWithoutPort :=
  ⟨.badVariable "INVOICEFLOW_SERVER_PORT" "x", by decide +kernel⟩

theorem settings_exit_codes_without_port :
    Settings.LoadFails worldWithoutPort ∧
    (Invocation.rules.run worldWithoutPort).exitCode = 2 ∧
    ((Invocation.doctor true).run worldWithoutPort).exitCode = 1 := by
  obtain ⟨htwo, hdoctor, -⟩ := settings_exit_codes worldWithoutPort
  exact ⟨loadFails_worldWithoutPort, (htwo .rules).2 ⟨loadFails_worldWithoutPort, rfl⟩,
    hdoctor loadFails_worldWithoutPort true⟩

/-- **A command that needs the settings ends well without them.** -/
theorem config_ends_well_without_port :
    Invocation.ofWords? ["config"] = some .config ∧ Settings.LoadFails worldWithoutPort ∧
    (Invocation.config.run worldWithoutPort).exitCode = 0 ∧
    ¬ ∀ w, Settings.LoadFails w → ∀ v : Invocation, v ≠ .departments →
      (v.run w).exitCode ≠ 0 := by
  have hzero : (Invocation.config.run worldWithoutPort).exitCode = 0 :=
    Command.exitCode_config worldWithoutPort
  refine ⟨by decide +kernel, loadFails_worldWithoutPort, hzero, ?_⟩
  intro hsignals
  exact hsignals worldWithoutPort loadFails_worldWithoutPort .config nofun hzero

end InvoiceApproval
