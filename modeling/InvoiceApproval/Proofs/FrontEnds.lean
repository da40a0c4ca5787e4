/-
Three ways in.

An invoice can be typed at the command line, sent to the service as a document, or
entered into the form on its page.  The three were not written as one.  The command and
the form read the amount as a person types it and the document as a program writes it,
the form asks for the amount before it looks at anything else, and the box of the form is
a text rather than a truth value.

They agree all the same.  An amount that can be typed is the same amount in a document
(`readLiteral_trim_of_readTyped`), so all three come to the same request or to the same
reason to refuse it, and what a request leads to is decided by the catalog alone
(`decision`), whoever is told about it.

Only at the command line there is no bound on how long an invoice may be.  What is sent to the
service is refused unread if it is longer than what the service reads.
-/
import InvoiceApproval.CommandLine
import InvoiceApproval.Proofs.Form
import InvoiceApproval.Proofs.Request.Amount
import InvoiceApproval.Proofs.Request.Body
import InvoiceApproval.Proofs.Server.Answers

namespace InvoiceApproval

/-! ### What answers say -/

/-- The message in an answer that is a document. -/
def messageIn? (answer : String) : Option String :=
  (Data.ofJson? answer).bind fun d => (d.field? "message").bind Data.text?

/-- The response in an answer that is a document. -/
def responseIn? (answer : String) : Option Response :=
  (Data.ofJson? answer).bind Response.ofData?

theorem messageIn?_failure (command : String) (f : CommandFailure) :
    messageIn? (f.answer command).output = some f.message := by
  have hwritable : (f.toData command).Writable :=
    ⟨⟨trivial, trivial, trivial, trivial, trivial⟩, rfl⟩
  show messageIn? (f.toData command).toJson = _
  unfold messageIn?
  rw [Data.ofJson?_toJson hwritable]
  rfl

theorem messageIn?_refuse (f : Failure) :
    messageIn? (Server.refuse f).body = some (f.refusal Refusal.unassigned).userMessage := by
  show messageIn? (f.refusal Refusal.unassigned).toData.toJson = _
  unfold messageIn?
  rw [Data.ofJson?_toJson (Refusal.writable_toData _)]
  rfl

theorem responseIn?_toJson {r : Response} (h : r.amount.Signed) :
    responseIn? r.toData.toJson = some r := by
  unfold responseIn?
  rw [Data.ofJson?_toJson r.writable_toData]
  exact Response.ofData?_toData h

theorem responseIn?_toIndentedJson {r : Response} (h : r.amount.Signed) :
    responseIn? r.toData.toIndentedJson = some r := by
  unfold responseIn?
  rw [Data.ofJson?_toIndentedJson r.writable_toData]
  exact Response.ofData?_toData h

/-! ### What a catalog decides -/

/-- **A catalog decides every request, whoever is told.** -/
theorem Catalog.exists_decision (c : Catalog) (r : ApprovalRequest) :
    ∃ o, o.request = r ∧ ∀ n : Notifier, (c.engine n).decision r = .ok o := by
  have hsame : ∀ n : Notifier, (c.engine n).decision r = (c.engine .outbox).decision r :=
    fun _ => rfl
  cases hdecision : (c.engine .outbox).decision r with
  | error cause =>
      rcases Engine.decision_error_iff.1 hdecision with h | ⟨h, -⟩ <;> exact nomatch h
  | ok o =>
      exact ⟨o, (Engine.decision_ok hdecision).1, fun n => (hsame n).trans hdecision⟩

/-! ### The three ways -/

section

variable {w : World} {ref : Reference} {r : ApprovalRequest} {cause : ValidationError}

theorem execute_of_error (hload : Reference.load w = .ok ref) {i : Command.Invoice}
    (h : i.request = .error cause) (json : Bool) :
    Command.execute w i json = (CommandFailure.validation cause).answer "execute" := by
  unfold Command.execute Command.runInvoice
  rw [hload, h]
  rfl

theorem runInvoice_of_ok (hload : Reference.load w = .ok ref) {i : Command.Invoice}
    (h : i.request = .ok r) {o : Outcome} (ho : (ref.catalog.engine .outbox).decision r = .ok o) :
    ∃ left, (ref.catalog.engine .outbox).run r Journal.empty = (.ok o, left) ∧
      Command.runInvoice w i = .ok (ref.settings, Response.ofOutcome o, left.outbox) := by
  obtain ⟨left, hrun⟩ : ∃ left, (ref.catalog.engine .outbox).run r Journal.empty = (.ok o, left) :=
    ⟨_, by rw [Engine.run_eq, ho]⟩
  refine ⟨left, hrun, ?_⟩
  unfold Command.runInvoice
  rw [hload, h]
  simp only [bind, Except.bind, Except.mapError, hrun]
  rfl

theorem execute_of_ok (hload : Reference.load w = .ok ref) {i : Command.Invoice}
    (h : i.request = .ok r) {o : Outcome} (ho : (ref.catalog.engine .outbox).decision r = .ok o) :
    Command.execute w i true = .done (Response.ofOutcome o).toData.toIndentedJson := by
  obtain ⟨left, -, hinvoice⟩ := runInvoice_of_ok hload h ho
  unfold Command.execute
  rw [hinvoice]
  simp only [if_true, Response.toIndentedJson?_eq_ok]

variable {e : Engine} {b : RequestBody} {o : Outcome}

theorem run_of_error (h : b.request = .error cause) (j : Journal) :
    (Server.run e b).run j = (.error (.validation cause), j) := by
  rw [Server.run_run, h]

theorem run_of_ok (h : b.request = .ok r) (ho : e.decision r = .ok o) (j : Journal) :
    ∃ j', (Server.run e b).run j = (.ok o, j') := by
  refine ⟨(e.run r j).2, ?_⟩
  rw [Server.run_run, h]
  show ((e.decision r).mapError Failure.catalog, (e.run r j).2) = _
  rw [ho]
  rfl

/-- A document that is sent to the service. -/
def sentDocument (body : String) : WebRequest :=
  ⟨"POST", "/workflow/execute", some "application/json", body⟩

/-- A form that is submitted on the page. -/
def sentForm (form : MessageBody) : WebRequest :=
  ⟨"POST", "/ui/execute", some "application/x-www-form-urlencoded", form⟩

theorem isJson_sentDocument (body : String) :
    (sentDocument body).contentType.any MediaType.isJson = true := by
  show MediaType.isJson "application/json" = true
  decide

theorem isForm_sentForm (form : MessageBody) :
    (sentForm form).contentType.any MediaType.isForm = true := by
  show MediaType.isForm "application/x-www-form-urlencoded" = true
  decide

theorem answer_sentDocument (e : Engine) (now body : String) :
    Server.answer e now (sentDocument body) = Server.execute e (sentDocument body) := by
  have hpath : (sentDocument body).path = "/workflow/execute" := by
    simp only [WebRequest.path, sentDocument]
    decide
  exact Server.answer_of_isOrder ⟨rfl, hpath⟩ e now

theorem answer_sentForm (e : Engine) (now : String) (form : MessageBody) :
    Server.answer e now (sentForm form) = Server.submit e (sentForm form) := by
  have hpath : (sentForm form).path = "/ui/execute" := by
    simp only [WebRequest.path, sentForm]
    decide
  have hroute : Server.Route.ofPath? "/ui/execute" = some .submit := by decide
  unfold Server.answer
  rw [hpath, hroute]
  rfl

theorem readBody_sentDocument {body : String} (hfits : MessageBody.Fits body)
    (h : RequestBody.read body = .ok b) : Server.readBody (sentDocument body) = .ok b :=
  Server.readBody_eq_ok_iff.2
    ⟨isJson_sentDocument body, hfits, (RequestBody.readBytes_encode body).trans h⟩

theorem readForm_sentForm {form : MessageBody} {f : SubmittedForm} (hfits : form.Fits)
    (h : SubmittedForm.ofBody? form.bytes = some f) : Server.readForm (sentForm form) = .ok f := by
  have hshort : ¬ (sentForm form).body.isOverlong = true :=
    fun hlong => MessageBody.isOverlong_eq_true_iff.1 hlong hfits
  have hread : SubmittedForm.ofBody? (sentForm form).body.bytes = some f := h
  unfold Server.readForm
  rw [if_pos (isForm_sentForm form), if_neg hshort, hread]

/-- What the service answers, whatever its journal holds. -/
def reply (e : Engine) (now : String) (j : Journal) (m : WebRequest) : WebResponse :=
  ((Server.answer e now m).run j).1

/-- What the service answers to a document that it can read. -/
theorem reply_of_read {body now : String} {j j' : Journal} {result : Except Failure Outcome}
    (hfits : MessageBody.Fits body) (hread : RequestBody.read body = .ok b)
    (hrun : (Server.run e b).run j = (result, j')) :
    reply e now j (sentDocument body) = Server.answerTo result := by
  unfold reply
  rw [answer_sentDocument, Server.execute_of_body (readBody_sentDocument hfits hread), hrun]

/-- What the service answers to a form that it can read. -/
theorem reply_of_form {form : MessageBody} {now : String} {f : SubmittedForm} {j j' : Journal}
    {result : Except Failure Outcome} (hfits : form.Fits)
    (hform : SubmittedForm.ofBody? form.bytes = some f)
    (hrun : (Server.runForm e f).run j = (result, j')) :
    reply e now j (sentForm form) = Server.pageTo f result := by
  unfold reply
  rw [answer_sentForm, Server.submit_of_form (readForm_sentForm hfits hform), hrun]

/-- What the service answers to a document that is too long. -/
theorem reply_of_overlong_document {body : String} (h : ¬ MessageBody.Fits body) (e : Engine)
    (now : String) (j : Journal) :
    reply e now j (sentDocument body)
      = Server.refuse (.validation (.malformedRequest Server.overlongMessage)) := by
  have hlong : (sentDocument body).body.isOverlong = true :=
    MessageBody.isOverlong_eq_true_iff.2 h
  have hbody : Server.readBody (sentDocument body)
      = .error (.malformedRequest Server.overlongMessage) := by
    unfold Server.readBody
    rw [if_pos (isJson_sentDocument body), if_pos hlong]
  unfold reply
  rw [answer_sentDocument]
  unfold Server.execute
  rw [hbody]
  rfl

/-- What the service answers to a form that is too long. -/
theorem reply_of_overlong_form {form : MessageBody} (h : ¬ form.Fits) (e : Engine) (now : String)
    (j : Journal) :
    reply e now j (sentForm form) = .plain 413 Server.overlongMessage := by
  have hlong : (sentForm form).body.isOverlong = true := MessageBody.isOverlong_eq_true_iff.2 h
  have hform : Server.readForm (sentForm form) = .error (.plain 413 Server.overlongMessage) := by
    unfold Server.readForm
    rw [if_pos (isForm_sentForm form), if_pos hlong]
  unfold reply
  rw [answer_sentForm, Server.submit_of_refusal hform]

theorem runForm_of_ok {f : SubmittedForm} {d : Decimal}
    (h : Decimal.parseTyped f.amount = .ok d) :
    Server.runForm e f = Server.run e ⟨d, f.department, f.isChecked⟩ := by
  unfold Server.runForm
  rw [h]

theorem runForm_of_error {f : SubmittedForm} (h : Decimal.parseTyped f.amount = .error cause)
    (j : Journal) : (Server.runForm e f).run j = (.error (.validation cause), j) := by
  unfold Server.runForm
  rw [h]
  rfl

end

/-! ### Refusals and responses -/

/-- The form of an invoice: the box says `on` if it is checked. -/
def Command.Invoice.form (i : Command.Invoice) : SubmittedForm :=
  ⟨i.amount, i.department, if i.requiresManagerApproval then some "on" else none⟩

theorem Command.Invoice.isChecked_form (i : Command.Invoice) :
    i.form.isChecked = i.requiresManagerApproval := by
  cases h : i.requiresManagerApproval <;> simp [form, SubmittedForm.isChecked, h]

/-- What a document says of an invoice whose amount has been read. -/
def Command.Invoice.body (i : Command.Invoice) (d : Decimal) : RequestBody :=
  ⟨d, i.department, i.requiresManagerApproval⟩

theorem Command.Invoice.request_of_ok {i : Command.Invoice} {d : Decimal}
    (h : Decimal.parseTyped i.amount = .ok d) : i.request = (i.body d).request := by
  unfold request ApprovalRequest.ofTyped
  rw [h]
  rfl

theorem Command.Invoice.request_of_error {i : Command.Invoice} {cause : ValidationError}
    (h : Decimal.parseTyped i.amount = .error cause) : i.request = .error cause := by
  unfold request ApprovalRequest.ofTyped
  rw [h]
  rfl

theorem Command.Invoice.runForm_form {i : Command.Invoice} {d : Decimal} (e : Engine)
    (h : Decimal.parseTyped i.amount = .ok d) :
    Server.runForm e i.form = Server.run e (i.body d) := by
  rw [runForm_of_ok (f := i.form) h, i.isChecked_form]
  rfl

/-- A command refuses an invoice with these words. -/
structure CommandRefused (message : String) (answer : Answer) : Prop where
  exitCode : answer.exitCode = 4
  told : messageIn? answer.output = some message

/-- The service refuses a document with these words. -/
structure DocumentRefused (message : String) (answer : WebResponse) : Prop where
  status : answer.status = 400
  told : messageIn? answer.body = some message

/-- The page is shown again with these words. -/
structure FormRefused (f : SubmittedForm) (message : String) (page : WebResponse) : Prop where
  status : page.status = 400
  shown : page.body = Page.render f.values (.error message)

/-- A command answers an invoice with this response. -/
structure CommandResponded (response : Response) (answer : Answer) : Prop where
  exitCode : answer.exitCode = 0
  printed : responseIn? answer.output = some response

/-- The service answers a document with this response. -/
structure DocumentResponded (response : Response) (answer : WebResponse) : Prop where
  status : answer.status = 200
  sent : responseIn? answer.body = some response

/-- The page is shown again with this response. -/
structure FormResponded (f : SubmittedForm) (response : Response) (page : WebResponse) : Prop where
  status : page.status = 200
  shown : page.body = Page.render f.values (.result response)

section

variable {w : World} {ref : Reference} {i : Command.Invoice} {e : Engine} {b : RequestBody}
  {f : SubmittedForm} {cause : ValidationError} {r : ApprovalRequest} {o : Outcome}
  {body now : String} {form : MessageBody} {j j' : Journal}

theorem commandRefused (hload : Reference.load w = .ok ref) (h : i.request = .error cause) :
    CommandRefused cause.message (Command.execute w i true) := by
  rw [execute_of_error hload h]
  exact ⟨rfl, messageIn?_failure ..⟩

theorem documentRefused (hfits : MessageBody.Fits body) (hread : RequestBody.read body = .ok b)
    (h : b.request = .error cause) :
    DocumentRefused cause.message (reply e now j (sentDocument body)) := by
  rw [reply_of_read hfits hread (run_of_error h j)]
  exact ⟨rfl, messageIn?_refuse _⟩

theorem formRefused (hfits : form.Fits) (hform : SubmittedForm.ofBody? form.bytes = some f)
    (hrun : (Server.runForm e f).run j = (.error (.validation cause), j')) :
    FormRefused f cause.message (reply e now j (sentForm form)) := by
  rw [reply_of_form hfits hform hrun]
  exact ⟨rfl, rfl⟩

theorem commandResponded (hload : Reference.load w = .ok ref) (h : i.request = .ok r)
    (ho : (ref.catalog.engine .outbox).decision r = .ok o)
    (hsigned : (Response.ofOutcome o).amount.Signed) :
    CommandResponded (Response.ofOutcome o) (Command.execute w i true) := by
  rw [execute_of_ok hload h ho]
  exact ⟨rfl, responseIn?_toIndentedJson hsigned⟩

theorem documentResponded (hfits : MessageBody.Fits body) (hread : RequestBody.read body = .ok b)
    (h : b.request = .ok r) (ho : e.decision r = .ok o)
    (hsigned : (Response.ofOutcome o).amount.Signed) :
    DocumentResponded (Response.ofOutcome o) (reply e now j (sentDocument body)) := by
  obtain ⟨_, hrun⟩ := run_of_ok h ho j
  rw [reply_of_read hfits hread hrun]
  exact ⟨rfl, responseIn?_toJson hsigned⟩

theorem formResponded (hfits : form.Fits) (hform : SubmittedForm.ofBody? form.bytes = some f)
    (hrun : (Server.runForm e f).run j = (.ok o, j')) :
    FormResponded f (Response.ofOutcome o) (reply e now j (sentForm form)) := by
  rw [reply_of_form hfits hform hrun]
  exact ⟨rfl, rfl⟩

theorem signed_of_typed {d : Decimal} (hd : Decimal.parseTyped i.amount = .ok d)
    (hi : i.request = .ok r) (ho : o.request = r) : (Response.ofOutcome o).amount.Signed := by
  have hb : (i.body d).request = .ok r := by rw [← i.request_of_ok hd, hi]
  show o.request.amount.Signed
  rw [ho, RequestBody.amount_of_request hb]
  exact Decimal.signed_of_readTyped (Decimal.parseTyped_eq_ok_iff.1 hd)

end

/-! ### Agreement -/

/--
**The three ways in agree.**

An amount that can be typed leads all three to the same response or to the same words of
refusal, as long as what is sent to the service is not too long; and one that cannot be typed
leads the command and the form to the same words.  What is too long is refused unread.
-/
theorem front_ends_agree {w : World} {ref : Reference} (hload : Reference.load w = .ok ref)
    (i : Command.Invoice) {body : String} {form : MessageBody}
    (hbody : Data.ofJson? body = some
      (RequestBody.document (Text.trim i.amount) i.department i.requiresManagerApproval))
    (hform : SubmittedForm.ofBody? form.bytes = some i.form)
    (notifier : Notifier) (now : String) (j₁ j₂ : Journal) :
    let answer := Command.execute w i true
    let document := reply (ref.catalog.engine notifier) now j₁ (sentDocument body)
    let page := reply (ref.catalog.engine notifier) now j₂ (sentForm form)
    (∀ d, Decimal.parseTyped i.amount = .ok d →
      (∃ cause, i.request = .error cause ∧ CommandRefused cause.message answer ∧
        (MessageBody.Fits body → DocumentRefused cause.message document) ∧
        (form.Fits → FormRefused i.form cause.message page)) ∨
      (∃ r o, i.request = .ok r ∧ (ref.catalog.engine notifier).decision r = .ok o ∧
        CommandResponded (Response.ofOutcome o) answer ∧
        (MessageBody.Fits body → DocumentResponded (Response.ofOutcome o) document) ∧
        (form.Fits → FormResponded i.form (Response.ofOutcome o) page))) ∧
    (∀ cause, Decimal.parseTyped i.amount = .error cause →
      cause = .malformedAmount i.amount ∧ CommandRefused cause.message answer ∧
        (form.Fits → FormRefused i.form cause.message page)) ∧
    (¬ MessageBody.Fits body →
      DocumentRefused (ValidationError.malformedRequest Server.overlongMessage).message document) ∧
    (¬ form.Fits → page = .plain 413 Server.overlongMessage) := by
  intro answer document page
  refine ⟨?typed, ?untyped, ?overlongDocument, fun hlong => reply_of_overlong_form hlong ..⟩
  case typed =>
    intro d hd
    have hread : RequestBody.read body = .ok (i.body d) :=
      RequestBody.read_of_document hbody
        (Decimal.readLiteral_trim_of_readTyped (Decimal.parseTyped_eq_ok_iff.1 hd))
    have hrun := i.runForm_form (ref.catalog.engine notifier) hd
    cases hi : i.request with
    | error cause =>
        have hb : (i.body d).request = .error cause := by rw [← i.request_of_ok hd, hi]
        have hsubmitted : (Server.runForm (ref.catalog.engine notifier) i.form).run j₂
            = (.error (.validation cause), j₂) := by
          rw [hrun]
          exact run_of_error hb j₂
        exact Or.inl ⟨cause, rfl, commandRefused hload hi,
          fun hfits => documentRefused hfits hread hb,
          fun hfits => formRefused hfits hform hsubmitted⟩
    | ok r =>
        have hb : (i.body d).request = .ok r := by rw [← i.request_of_ok hd, hi]
        obtain ⟨o, hor, ho⟩ := ref.catalog.exists_decision r
        have hsigned := signed_of_typed hd hi hor
        obtain ⟨j', hsubmitted⟩ := run_of_ok hb (ho notifier) j₂
        rw [← hrun] at hsubmitted
        exact Or.inr ⟨r, o, rfl, ho notifier, commandResponded hload hi (ho .outbox) hsigned,
          fun hfits => documentResponded hfits hread hb (ho notifier) hsigned,
          fun hfits => formResponded hfits hform hsubmitted⟩
  case untyped =>
    intro cause hcause
    have hmalformed := (Decimal.parseTyped_eq_error_iff.1 hcause).2
    have hrun := runForm_of_error (e := ref.catalog.engine notifier) (f := i.form) hcause j₂
    exact ⟨hmalformed.symm, commandRefused hload (i.request_of_error hcause),
      fun hfits => formRefused hfits hform hrun⟩
  case overlongDocument =>
    intro hlong
    show DocumentRefused _ (reply _ _ _ _)
    rw [reply_of_overlong_document hlong]
    exact ⟨rfl, messageIn?_refuse _⟩

/-- The settings and the catalog of a program that finds no file and no variable. -/
def unconfigured : Reference := ⟨.default, .seed⟩

theorem load_nothing : Reference.load ⟨[], []⟩ = .ok unconfigured := by
  have hsettings : Settings.load ⟨[], []⟩ .none = .ok .default := by decide +kernel
  unfold Reference.load
  rw [hsettings]
  rfl

/-- An amount just above the threshold, typed with blanks around it and a separator in it. -/
def spacedInvoice : Command.Invoice := ⟨" 1_000.01 ", "marketing", true⟩

/-- An amount that is typed with a comma, and cannot be read. -/
def garbledInvoice : Command.Invoice := ⟨"1,000.01", "marketing", true⟩

theorem front_ends_agree_spaced :
    Reference.load ⟨[], []⟩ = .ok unconfigured ∧
      (∃ d, Decimal.parseTyped spacedInvoice.amount = .ok d) ∧
      (∃ r o, spacedInvoice.request = .ok r ∧
        (unconfigured.catalog.engine (.log "email")).decision r = .ok o ∧
        CommandResponded (Response.ofOutcome o) (Command.execute ⟨[], []⟩ spacedInvoice true) ∧
        DocumentResponded (Response.ofOutcome o)
          (reply (unconfigured.catalog.engine (.log "email")) "" Journal.empty
            (sentDocument (RequestBody.document (Text.trim spacedInvoice.amount)
              spacedInvoice.department spacedInvoice.requiresManagerApproval).toJson)) ∧
        FormResponded spacedInvoice.form (Response.ofOutcome o)
          (reply (unconfigured.catalog.engine (.log "email")) "" Journal.empty
            (sentForm spacedInvoice.form.written))) ∧
      Decimal.parseTyped garbledInvoice.amount = .error (.malformedAmount "1,000.01") ∧
      CommandRefused (ValidationError.malformedAmount "1,000.01").message
        (Command.execute ⟨[], []⟩ garbledInvoice true) ∧
      FormRefused garbledInvoice.form (ValidationError.malformedAmount "1,000.01").message
        (reply (unconfigured.catalog.engine (.log "email")) "" Journal.empty
          (sentForm garbledInvoice.form.written)) := by
  have hagree := fun i : Command.Invoice => front_ends_agree load_nothing i
    (Data.ofJson?_toJson (RequestBody.writable_document ..)) i.form.ofBody?_written
    (.log "email") "" Journal.empty Journal.empty
  have hparse : ∃ d, Decimal.parseTyped spacedInvoice.amount = .ok d := ⟨_, rfl⟩
  have hgarbled : Decimal.parseTyped garbledInvoice.amount = .error (.malformedAmount "1,000.01") :=
    rfl
  have hdocument : MessageBody.Fits (RequestBody.document (Text.trim spacedInvoice.amount)
      spacedInvoice.department spacedInvoice.requiresManagerApproval).toJson := by decide +kernel
  have hform : ∀ i ∈ [spacedInvoice, garbledInvoice], i.form.written.Fits := by decide +kernel
  obtain ⟨d, hd⟩ := hparse
  obtain ⟨-, hrefused, hpage⟩ := (hagree garbledInvoice).2.1 _ hgarbled
  refine ⟨load_nothing, ⟨d, hd⟩, ?_, hgarbled, hrefused, hpage (hform _ (by simp))⟩
  rcases (hagree spacedInvoice).1 d hd with
    ⟨cause, hcause, -⟩ | ⟨r, o, hr, ho, hcommand, hsent, hshown⟩
  · have haccepted : ∃ r, spacedInvoice.request = .ok r := ⟨_, rfl⟩
    obtain ⟨r, hr⟩ := haccepted
    rw [hr] at hcause
    exact nomatch hcause
  · exact ⟨r, o, hr, ho, hcommand, hsent hdocument, hshown (hform _ (by simp))⟩

/-- An invoice of seven, with as many zeros in front as make it too long for the service. -/
def endlessInvoice : Command.Invoice := ⟨Decimal.zeroFilled MessageBody.limit, "SALES", false⟩

/-- What is carried out at the command line may be too long for the service. -/
theorem endless_invoice_refused :
    let body := (RequestBody.document (Text.trim endlessInvoice.amount) endlessInvoice.department
      endlessInvoice.requiresManagerApproval).toJson
    let e := unconfigured.catalog.engine (.log "email")
    Reference.load ⟨[], []⟩ = .ok unconfigured ∧
      Decimal.parseTyped endlessInvoice.amount = .ok (.ofNat 7) ∧
      (∃ response, CommandResponded response (Command.execute ⟨[], []⟩ endlessInvoice true)) ∧
      DocumentRefused (ValidationError.malformedRequest Server.overlongMessage).message
        (reply e "" Journal.empty (sentDocument body)) ∧
      reply e "" Journal.empty (sentForm endlessInvoice.form.written)
        = .plain 413 Server.overlongMessage := by
  intro body e
  have hfilled := Decimal.length_zeroFilled MessageBody.limit
  have hparse : Decimal.parseTyped endlessInvoice.amount = .ok (.ofNat 7) :=
    Decimal.parseTyped_eq_ok_iff.2 (Decimal.readTyped_zeroFilled _)
  have hrequest : endlessInvoice.request = .ok Server.orderedSeven := by
    rw [endlessInvoice.request_of_ok hparse]
    decide
  have hdocument : ¬ MessageBody.Fits body := by
    have htrimmed : Text.trim endlessInvoice.amount = Decimal.zeroFilled MessageBody.limit :=
      Decimal.trim_zeroFilled _
    refine not_fits_document ?_ _ _
    rw [htrimmed, hfilled]
    exact Nat.lt_succ_self _
  have hform : ¬ endlessInvoice.form.written.Fits := by
    have hlong : (Decimal.zeroFilled MessageBody.limit).toList.length
        ≤ endlessInvoice.form.written.bytes.length := endlessInvoice.form.length_written
    show ¬ endlessInvoice.form.written.bytes.length ≤ MessageBody.limit
    omega
  obtain ⟨o, horder, ho⟩ := unconfigured.catalog.exists_decision Server.orderedSeven
  refine ⟨load_nothing, hparse, ⟨_, commandResponded load_nothing hrequest (ho .outbox)
    (signed_of_typed hparse hrequest horder)⟩, ?_, reply_of_overlong_form hform ..⟩
  rw [reply_of_overlong_document hdocument]
  exact ⟨rfl, messageIn?_refuse _⟩

end InvoiceApproval
