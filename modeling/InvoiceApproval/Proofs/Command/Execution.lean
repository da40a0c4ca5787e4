/-
How the command that runs an invoice ends.

The command loads the settings, then the catalog, reads what has been typed, and has the
request carried out.  Each of the first three steps can fail, and the command then ends there
with an exit code and a class of failure that belong to the step.  The fourth cannot fail: the
stores hold what has just been loaded, so the engine comes to an end, and whatever it decides can
be written.  So the command has four ends (`Ended`), and the exit code one, which stands for
anything else that might go wrong, is never given.

What has been typed is read in an order too: the amount, the department, and last the sign of
the amount.  `Faulty` says of each reason to refuse an invoice when it is the one that is told,
and an invoice without such a reason means a request (`Means`).
-/
import InvoiceApproval.Proofs.Command.ExitCodes
import InvoiceApproval.Proofs.Command.Lines
import InvoiceApproval.Proofs.Encoding

namespace InvoiceApproval

/-- In this world the settings load, and the catalog that they ask for does not. -/
def Catalog.LoadFails (w : World) : Prop :=
  ∃ s cause, Settings.load w .none = .ok s ∧ Catalog.ofSettings? w s = .error cause

theorem Reference.load_of_settings {w : World} {s : Settings}
    (h : Settings.load w .none = .ok s) :
    Reference.load w = ((Catalog.ofSettings? w s).mapError .catalog).map (Reference.mk s) := by
  rw [Reference.load, h]
  show ((Catalog.ofSettings? w s).mapError _ >>= _) = _
  cases Catalog.ofSettings? w s <;> rfl

namespace Command

/-! ### What has been typed -/

namespace Invoice

variable {i : Invoice} {r : ApprovalRequest} {cause : ValidationError}

/-- Why what has been typed is refused.  What is looked at first is told first. -/
inductive Faulty (i : Invoice) : ValidationError → Prop
  | amount : Decimal.readTyped i.amount = none → Faulty i (.malformedAmount i.amount)
  | department {d : Decimal} : Decimal.readTyped i.amount = some d →
    (∀ known : Department, Text.asciiUpper i.department ≠ known.name) →
    Faulty i (.unknownDepartment i.department)
  | sign {d : Decimal} {department : Department} : Decimal.readTyped i.amount = some d →
    Text.asciiUpper i.department = department.name → d.value < 0 → Faulty i (.negativeAmount d)

/-- What has been typed means a request. -/
structure Means (i : Invoice) (r : ApprovalRequest) : Prop where
  amount : Decimal.readTyped i.amount = some r.amount
  department : Text.asciiUpper i.department = r.department.name
  requiresManagerApproval : r.requiresManagerApproval = i.requiresManagerApproval

theorem request_of_readTyped {d : Decimal} (h : Decimal.readTyped i.amount = some d) :
    i.request = (i.body d).request :=
  request_of_ok (Decimal.parseTyped_eq_ok_iff.2 h)

theorem ofText?_eq_none {s : String} (h : ∀ known : Department, Text.asciiUpper s ≠ known.name) :
    Department.ofText? s = none := by
  cases hknown : Department.ofText? s with
  | none => rfl
  | some known => exact absurd (Department.ofName?_eq_some_iff.1 hknown) (h known)

theorem request_of_faulty (h : i.Faulty cause) : i.request = .error cause := by
  cases h with
  | amount hread => exact request_of_error (Decimal.parseTyped_eq_error_iff.2 ⟨hread, rfl⟩)
  | department hread hunknown =>
      rw [request_of_readTyped hread, RequestBody.request, ApprovalRequest.ofParts,
        Department.parse, body, ofText?_eq_none hunknown]
      rfl
  | @sign d department hread hname hneg =>
      have hknown : Department.ofText? i.department = some department :=
        Department.ofName?_eq_some_iff.2 hname
      have hsign : ¬ d.isNegative = false := by simp [(Decimal.isNegative_iff d).2 hneg]
      rw [request_of_readTyped hread, RequestBody.request, ApprovalRequest.ofParts,
        Department.parse, body, hknown]
      exact dif_neg hsign

theorem request_of_means (h : i.Means r) : i.request = .ok r := by
  have hnonneg : ¬ r.amount.value < 0 := by
    rw [← Decimal.isNegative_iff, r.amount_nonneg]
    exact Bool.false_ne_true
  rw [request_of_readTyped h.amount]
  exact Server.request_eq_ok_iff.2 ⟨h.department, hnonneg, rfl, h.requiresManagerApproval⟩

/-- **What has been typed is faulty or means a request.** -/
theorem faulty_or_means (i : Invoice) : (∃ cause, i.Faulty cause) ∨ ∃ r, i.Means r := by
  cases hread : Decimal.readTyped i.amount with
  | none => exact .inl ⟨_, .amount hread⟩
  | some d =>
      by_cases hknown : ∃ department : Department, Text.asciiUpper i.department = department.name
      · obtain ⟨department, hname⟩ := hknown
        cases hsign : d.isNegative with
        | true => exact .inl ⟨_, .sign hread hname ((Decimal.isNegative_iff d).1 hsign)⟩
        | false => exact .inr ⟨⟨d, department, i.requiresManagerApproval, hsign⟩, hread, hname, rfl⟩
      · exact .inl ⟨_, .department hread fun known hname => hknown ⟨known, hname⟩⟩

end Invoice

/-! ### The ends -/

/-- An answer that tells of a failure of this command. -/
structure Failed (exitCode : Nat) (className message : String) (a : Answer) : Prop where
  exitCode_eq : a.exitCode = exitCode
  told : TellsFailure "execute" className message a.output

/-- An answer that shows a response and the notices that were sent, as a document or as text. -/
structure Shows (json : Bool) (response : Response) (channel : String) (sent : List Notice)
    (a : Answer) : Prop where
  exitCode_eq : a.exitCode = 0
  document : json = true → response.HeldBy a.output
  text : json = false → a.output = response.text channel sent
  lines : json = false →
    ∃ lines, response.LaidOut channel sent lines ∧ a.output = Answer.lines lines

/-- How the command ends in a world. -/
inductive Ended (w : World) (i : Invoice) (json : Bool) (a : Answer) : Prop
  | unset {cause : SettingsError} : Settings.load w .none = .error cause →
    Failed 2 "config_validation" s!"configuration issue: {cause.message}" a → Ended w i json a
  | unloaded {s : Settings} {cause : CatalogError} : Settings.load w .none = .ok s →
    Catalog.ofSettings? w s = .error cause → Failed 3 "catalog" cause.message a → Ended w i json a
  | refused {ref : Reference} {cause : ValidationError} : Reference.load w = .ok ref →
    i.Faulty cause → Failed 4 "validation" cause.message a → Ended w i json a
  | responded {ref : Reference} {r : ApprovalRequest} {o : Outcome} {left : Journal} :
    Reference.load w = .ok ref → i.Means r →
    (ref.catalog.engine .outbox).run r Journal.empty = (.ok o, left) →
    Shows json (Response.ofOutcome o) ref.settings.channel left.outbox a → Ended w i json a

section

variable {w : World} {i : Invoice}

theorem failed_execute {f : CommandFailure} (h : runInvoice w i = .error f) (json : Bool) :
    Failed f.exitCode f.className f.message (execute w i json) :=
  ⟨by rw [exitCode_execute, h]; rfl, (printed w i).refused f h json⟩

theorem shows_execute {settings : Settings} {response : Response} {sent : List Notice}
    (h : runInvoice w i = .ok (settings, response, sent)) (json : Bool) :
    Shows json response settings.channel sent (execute w i json) := by
  have htext : json = false → (execute w i json).output = response.text settings.channel sent := by
    rintro rfl
    unfold execute
    rw [h]
    rfl
  refine ⟨by rw [exitCode_execute, h]; rfl, ?_, htext, fun hjson =>
    Response.eq_text_iff.1 (htext hjson)⟩
  rintro rfl
  exact (printed w i).response settings response sent h

theorem runInvoice_of_load_error {f : CommandFailure} (h : Reference.load w = .error f) :
    runInvoice w i = .error f := by
  unfold runInvoice
  rw [h]
  rfl

theorem runInvoice_of_faulty {ref : Reference} (h : Reference.load w = .ok ref)
    {cause : ValidationError} (hfaulty : i.Faulty cause) :
    runInvoice w i = .error (.validation cause) := by
  unfold runInvoice
  rw [h, Invoice.request_of_faulty hfaulty]
  rfl

/-- **A loaded catalog carries out every request.** -/
theorem exists_runInvoice {ref : Reference} (h : Reference.load w = .ok ref)
    {r : ApprovalRequest} (hmeans : i.Means r) : ∃ o left,
      (ref.catalog.engine .outbox).run r Journal.empty = (.ok o, left) ∧
        runInvoice w i = .ok (ref.settings, Response.ofOutcome o, left.outbox) := by
  obtain ⟨o, -, hdecision⟩ := ref.catalog.exists_decision r
  obtain ⟨left, hrun, hinvoice⟩ :=
    runInvoice_of_ok h (Invoice.request_of_means hmeans) (hdecision .outbox)
  exact ⟨o, left, hrun, hinvoice⟩

end

/-- **The command ends in one of four ways.** -/
theorem ended_execute (w : World) (i : Invoice) (json : Bool) :
    Ended w i json (execute w i json) := by
  cases hsettings : Settings.load w .none with
  | error cause =>
      have hload := Reference.load_eq_settings_iff.2 hsettings
      exact .unset hsettings (failed_execute (runInvoice_of_load_error hload) json)
  | ok s =>
      have hload := Reference.load_of_settings hsettings
      cases hcatalog : Catalog.ofSettings? w s with
      | error cause =>
          rw [hcatalog] at hload
          exact .unloaded hsettings hcatalog (failed_execute (runInvoice_of_load_error hload) json)
      | ok c =>
          rw [hcatalog] at hload
          rcases i.faulty_or_means with ⟨cause, hfaulty⟩ | ⟨r, hmeans⟩
          · exact .refused hload hfaulty (failed_execute (runInvoice_of_faulty hload hfaulty) json)
          · obtain ⟨o, left, hrun, hinvoice⟩ := exists_runInvoice hload hmeans
            exact .responded hload hmeans hrun (shows_execute hinvoice json)

/-! ### What the exit code stands for -/

/-- What an exit code of this command stands for. -/
inductive Signals (w : World) (i : Invoice) : Nat → Prop
  | unset : Settings.LoadFails w → Signals w i 2
  | unloaded : Catalog.LoadFails w → Signals w i 3
  | refused {ref : Reference} {cause : ValidationError} :
    Reference.load w = .ok ref → i.Faulty cause → Signals w i 4
  | responded {ref : Reference} {r : ApprovalRequest} :
    Reference.load w = .ok ref → i.Means r → Signals w i 0

theorem Ended.signals {w : World} {i : Invoice} {json : Bool} {a : Answer}
    (h : Ended w i json a) : Signals w i a.exitCode := by
  cases h with
  | unset hsettings hfailed =>
      rw [hfailed.exitCode_eq]
      exact .unset ⟨_, hsettings⟩
  | unloaded hsettings hcatalog hfailed =>
      rw [hfailed.exitCode_eq]
      exact .unloaded ⟨_, _, hsettings, hcatalog⟩
  | refused hload hfaulty hfailed =>
      rw [hfailed.exitCode_eq]
      exact .refused hload hfaulty
  | responded hload hmeans _ hshows =>
      rw [hshows.exitCode_eq]
      exact .responded hload hmeans

/-- **The command ends with an exit code exactly if there is what it stands for.** -/
theorem exitCode_execute_iff {w : World} {i : Invoice} {json : Bool} {code : Nat} :
    (execute w i json).exitCode = code ↔ Signals w i code := by
  constructor
  · rintro rfl
    exact (ended_execute w i json).signals
  · intro h
    rw [exitCode_execute]
    cases h with
    | unset hfails =>
        obtain ⟨cause, hsettings⟩ := hfails
        rw [runInvoice_eq_settings_iff.2 hsettings]
        rfl
    | unloaded hfails =>
        obtain ⟨s, cause, hsettings, hcatalog⟩ := hfails
        have hload := Reference.load_of_settings hsettings
        rw [hcatalog] at hload
        rw [runInvoice_of_load_error hload]
        rfl
    | refused hload hfaulty =>
        rw [runInvoice_of_faulty hload hfaulty]
        rfl
    | responded hload hmeans =>
        obtain ⟨o, left, -, hinvoice⟩ := exists_runInvoice hload hmeans
        rw [hinvoice]
        rfl

/--
**The exit code tells which step has failed, and nothing else can.**

The command ends with two if the settings do not load, with three if they load and the catalog
does not, with four if both load and what has been typed is faulty, and with zero and the
response in every other world.  Each failure is told with the class of its step and with the
wording of its cause.  A request that is carried out with a loaded catalog comes to an end,
and its response can be written.
-/
theorem execute_ends (w : World) (i : Invoice) (json : Bool) :
    let a := execute w i json
    Ended w i json a ∧
    (a.exitCode = 2 ↔ Settings.LoadFails w) ∧
    (a.exitCode = 3 ↔ Catalog.LoadFails w) ∧
    (a.exitCode = 4 ↔ ∃ ref cause, Reference.load w = .ok ref ∧ i.Faulty cause) ∧
    (a.exitCode = 0 ↔ ∃ ref r, Reference.load w = .ok ref ∧ i.Means r) ∧
    a.exitCode ≠ 1 ∧
    ∀ ref r, Reference.load w = .ok ref → i.Means r →
      ∃ o output, ((ref.catalog.engine .outbox).run r Journal.empty).1 = .ok o ∧
        (Response.ofOutcome o).toIndentedJson? = .ok output := by
  intro a
  refine ⟨ended_execute w i json, ?_, ?_, ?_, ?_, ?_, ?_⟩
  · refine exitCode_execute_iff.trans ⟨?_, .unset⟩
    intro hsignals
    cases hsignals with
    | unset hfails => exact hfails
  · refine exitCode_execute_iff.trans ⟨?_, .unloaded⟩
    intro hsignals
    cases hsignals with
    | unloaded hfails => exact hfails
  · refine exitCode_execute_iff.trans ⟨?_, fun ⟨_, _, hload, hfaulty⟩ => .refused hload hfaulty⟩
    intro hsignals
    cases hsignals with
    | refused hload hfaulty => exact ⟨_, _, hload, hfaulty⟩
  · refine exitCode_execute_iff.trans ⟨?_, fun ⟨_, _, hload, hmeans⟩ => .responded hload hmeans⟩
    intro hsignals
    cases hsignals with
    | responded hload hmeans => exact ⟨_, _, hload, hmeans⟩
  · intro hone
    cases exitCode_execute_iff.1 hone
  · intro ref r hload hmeans
    obtain ⟨o, left, hrun, -⟩ := exists_runInvoice hload hmeans
    exact ⟨o, _, congrArg Prod.fst hrun, (Response.ofOutcome o).toIndentedJson?_eq_ok⟩

/-- An invoice below zero for a department that is not known. -/
def misdirected : Invoice := ⟨"-5", "legal", false⟩

/-- A small invoice. -/
def typedInvoice : Invoice := ⟨"40", "Sales", false⟩

/-- The request that it means. -/
def typedRequest : ApprovalRequest := ⟨.ofNat 40, .sales, false, rfl⟩

theorem execute_ends_misdirected :
    Reference.load ⟨[], []⟩ = .ok unconfigured ∧
      misdirected.Faulty (.unknownDepartment "legal") ∧
      (execute ⟨[], []⟩ misdirected true).exitCode = 4 ∧
      typedInvoice.Means typedRequest ∧
      (execute ⟨[], []⟩ typedInvoice true).exitCode = 0 ∧
      ∃ o output,
        ((unconfigured.catalog.engine .outbox).run typedRequest Journal.empty).1 = .ok o ∧
        (Response.ofOutcome o).toIndentedJson? = .ok output := by
  have hfaulty : misdirected.Faulty (.unknownDepartment "legal") :=
    .department (d := ⟨true, 5, 0, by decide, by decide⟩) (by decide +kernel)
      (fun known => by cases known <;> decide)
  have hmeans : typedInvoice.Means typedRequest := ⟨by decide +kernel, by decide, rfl⟩
  obtain ⟨-, -, -, hrefused, -⟩ := execute_ends ⟨[], []⟩ misdirected true
  obtain ⟨-, -, -, -, hresponded, -, hends⟩ := execute_ends ⟨[], []⟩ typedInvoice true
  exact ⟨load_nothing, hfaulty, hrefused.2 ⟨_, _, load_nothing, hfaulty⟩, hmeans,
    hresponded.2 ⟨_, _, load_nothing, hmeans⟩, hends _ _ load_nothing hmeans⟩

end Command

end InvoiceApproval
