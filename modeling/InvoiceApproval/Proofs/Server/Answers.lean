/-
What the service answers to a request.

A request is read, made valid and run, and each of the three steps may end it.  Whose fault
that is decides the answer: `resultOf` is what comes of the three steps, and `execute_run`
says that the service answers that and nothing else.  So there are three answers, each with a
condition on the message and on the engine alone, and no two of them at once.

Nobody is notified before the run has come to its end.  A message that is refused has left
no notice behind, neither in the outbox nor on a channel.

A failure of the stores is the program's own affair.  Engines that are alike but for the
words in which their stores fail (`Engine.Alike`) give the same answers, on every route but
the one that tells how the service stands.
-/
import InvoiceApproval.Proofs.Request.Length
import InvoiceApproval.Proofs.Response
import InvoiceApproval.Proofs.Run
import InvoiceApproval.Proofs.Selection
import InvoiceApproval.Server

namespace InvoiceApproval

/-! ### Notices in a journal -/

/-- Whether two journals hold the same notices, in the outbox and among the events. -/
structure Journal.SameNotices (j left : Journal) : Prop where
  outbox : left.outbox = j.outbox
  told : left.events.filter Event.isNotice = j.events.filter Event.isNotice

theorem Journal.SameNotices.refl (j : Journal) : j.SameNotices j := ⟨rfl, rfl⟩

theorem isNotice_selectionEvents {directory : Source Directory} {r : ApprovalRequest}
    {matched : List Rule} {ev : Event} (h : ev ∈ selectionEvents directory r matched) :
    ev.isNotice = false := by
  cases matched with
  | nil =>
      rw [selectionEvents, List.mem_singleton] at h
      subst h
      rfl
  | cons rule rest =>
      cases directory with
      | offline reason => exact absurd h List.not_mem_nil
      | available d =>
          simp only [selectionEvents] at h
          split at h
          · rw [List.mem_singleton] at h
            subst h
            rfl
          · exact absurd h List.not_mem_nil

namespace Engine

/-- **A run that fails has notified nobody.** -/
theorem sameNotices_of_decision_error {e : Engine} {r : ApprovalRequest} {cause : CatalogError}
    (h : e.decision r = .error cause) (j : Journal) : j.SameNotices (e.run r j).2 := by
  have htold : (e.told r).filter Event.isNotice = [] := by
    rw [List.filter_eq_nil_iff]
    intro ev hev
    rw [Bool.not_eq_true]
    rcases List.mem_cons.1 hev with rfl | hev
    · rfl
    cases hrules : e.rules with
    | offline reason =>
        rw [hrules] at hev
        exact absurd hev List.not_mem_nil
    | available c =>
        simp only [hrules] at hev
        rw [decision_of_rules (by rw [hrules]; rfl)] at h
        cases hselect : selection e.directory r (Rule.matching c.rules r) with
        | ok selected => simp [hselect, Except.map] at h
        | error reason =>
            simp only [hselect, List.append_nil] at hev
            rcases List.mem_cons.1 hev with rfl | hev
            · rfl
            · exact isNotice_selectionEvents hev
  rw [run_eq]
  refine ⟨?_, ?_⟩
  · simp [sent, h]
  · show (j.events ++ e.told r).filter Event.isNotice = _
    rw [List.filter_append, htold, List.append_nil]

end Engine

/-- A body is no longer than what the service reads. -/
def MessageBody.Fits (body : MessageBody) : Prop := body.bytes.length ≤ limit

instance (body : MessageBody) : Decidable body.Fits := inferInstanceAs (Decidable (_ ≤ _))

theorem MessageBody.isOverlong_eq_false_iff {body : MessageBody} :
    body.isOverlong = false ↔ body.Fits := by
  simp [isOverlong, Fits]

theorem MessageBody.isOverlong_eq_true_iff {body : MessageBody} :
    body.isOverlong = true ↔ ¬ body.Fits := by
  rw [← isOverlong_eq_false_iff, Bool.not_eq_false]

theorem not_fits_document {amount : String} (h : MessageBody.limit < amount.toList.length)
    (department : String) (flag : Bool) :
    ¬ MessageBody.Fits (RequestBody.document amount department flag).toJson := by
  have hdocument := RequestBody.length_document amount department flag
  have hbytes := (Text.length_encode (RequestBody.document amount department flag).toJson).1
  show ¬ (Text.encode _).length ≤ MessageBody.limit
  omega

/-- Whatever a refusal says can be written. -/
theorem Refusal.writable_toData (r : Refusal) : r.toData.Writable :=
  ⟨⟨trivial, trivial, trivial, trivial⟩, rfl⟩

namespace Server

variable {e : Engine} {m : WebRequest} {r : ApprovalRequest} {j : Journal}

/-! ### From a message to a request -/

/-- A message asks for this request: it says that it is JSON, its body is no longer than what
the service reads and can be read, and what stands there names a department, in whatever case,
and an amount that is not negative. -/
structure Asks (m : WebRequest) (r : ApprovalRequest) : Prop where
  contentType : m.contentType.any MediaType.isJson = true
  fits : m.body.Fits
  body : ∃ b, RequestBody.readBytes m.body.bytes = .ok b ∧
    Text.asciiUpper b.department = r.department.name ∧ ¬ b.amount.value < 0 ∧
    r.amount = b.amount ∧ r.requiresManagerApproval = b.requiresManagerApproval

/-- The request that a message asks for, or why it asks for none. -/
def requestOf (m : WebRequest) : Except ValidationError ApprovalRequest := do
  (← readBody m).request

theorem request_eq_ok_iff {b : RequestBody} :
    b.request = .ok r ↔ Text.asciiUpper b.department = r.department.name ∧
      ¬ b.amount.value < 0 ∧ r.amount = b.amount ∧
      r.requiresManagerApproval = b.requiresManagerApproval := by
  obtain ⟨amount, department, flag, hnonneg⟩ := r
  rw [← Decimal.isNegative_iff, Bool.not_eq_true]
  unfold RequestBody.request ApprovalRequest.ofParts Department.parse Department.ofText?
  constructor
  · intro h
    cases hname : Department.ofName? (Text.asciiUpper b.department) with
    | none => simp [hname, bind, Except.bind] at h
    | some d =>
        simp only [hname, bind, Except.bind, ApprovalRequest.make] at h
        split at h
        · cases h
          exact ⟨Department.ofName?_eq_some_iff.1 hname, hnonneg, rfl, rfl⟩
        · exact nomatch h
  · rintro ⟨hname, hnonneg', rfl, rfl⟩
    simp [Department.ofName?_eq_some_iff.2 hname, bind, Except.bind, ApprovalRequest.make, hnonneg']

theorem readBody_eq_ok_iff {b : RequestBody} :
    readBody m = .ok b ↔ m.contentType.any MediaType.isJson = true ∧
      m.body.Fits ∧ RequestBody.readBytes m.body.bytes = .ok b := by
  rw [← MessageBody.isOverlong_eq_false_iff]
  unfold readBody
  split
  · rename_i htype
    split
    · rename_i hlong
      simp [hlong]
    · rename_i hlong
      cases RequestBody.readBytes m.body.bytes <;> simp [htype, hlong, Except.mapError]
  · rename_i htype
    simp [htype]

theorem requestOf_eq_ok_iff : requestOf m = .ok r ↔ Asks m r := by
  unfold requestOf
  constructor
  · intro h
    cases hbody : readBody m with
    | error cause => simp [hbody, bind, Except.bind] at h
    | ok b =>
        simp only [hbody, bind, Except.bind] at h
        obtain ⟨htype, hfits, hread⟩ := readBody_eq_ok_iff.1 hbody
        exact ⟨htype, hfits, b, hread, request_eq_ok_iff.1 h⟩
  · rintro ⟨htype, hfits, b, hread, hasks⟩
    simp [readBody_eq_ok_iff.2 ⟨htype, hfits, hread⟩, bind, Except.bind, request_eq_ok_iff.2 hasks]

/-! ### From a request to an answer -/

/-- What comes of a message: an outcome, or the failure of one of the three steps. -/
def resultOf (e : Engine) (m : WebRequest) : Except Failure Outcome :=
  match requestOf m with
  | .error cause => .error (.validation cause)
  | .ok r => (e.decision r).mapError .catalog

/-- The answer to what comes of a message. -/
def answerTo : Except Failure Outcome → WebResponse
  | .ok o => .json 200 (Response.ofOutcome o).toData
  | .error failure => refuse failure

/-- The journal once a message has been answered. -/
def journalAfter (e : Engine) (m : WebRequest) (j : Journal) : Journal :=
  match requestOf m with
  | .error _ => j
  | .ok r => (e.run r j).2

theorem run_run (e : Engine) (b : RequestBody) (j : Journal) :
    (Server.run e b).run j = match b.request with
      | .error cause => (.error (.validation cause), j)
      | .ok r => ((e.decision r).mapError .catalog, (e.run r j).2) := by
  unfold Server.run
  cases b.request with
  | error cause => rfl
  | ok r =>
      show ((e.run r j).1.mapError Failure.catalog, (e.run r j).2) = _
      simp only [Engine.run_eq]

/-- A body that can be read is run, and the service answers what comes of that. -/
theorem execute_of_body {b : RequestBody} (h : readBody m = .ok b) (e : Engine) (j : Journal) :
    (execute e m).run j
      = (answerTo ((Server.run e b).run j).1, ((Server.run e b).run j).2) := by
  unfold execute
  rw [h]
  simp only [StateT.run_bind]
  cases (Server.run e b).run j with
  | mk result left => cases result <;> rfl

/-- **The service answers what comes of the three steps.** -/
theorem execute_run (e : Engine) (m : WebRequest) (j : Journal) :
    (execute e m).run j = (answerTo (resultOf e m), journalAfter e m j) := by
  unfold resultOf journalAfter
  cases hbody : readBody m with
  | error cause =>
      have hrequest : requestOf m = .error cause := by rw [requestOf, hbody]; rfl
      unfold execute
      rw [hrequest, hbody]
      rfl
  | ok b =>
      have hrequest : requestOf m = b.request := by rw [requestOf, hbody]; rfl
      rw [execute_of_body hbody, run_run, hrequest]
      cases b.request <;> rfl

/-! ### Three answers -/

/-- An answer that says that the request was carried out. -/
def Succeeded (a : WebResponse) : Prop :=
  a.status = 200 ∧ ((Data.ofJson? a.body).bind (·.field? "success")) = some (.bool true)

/-- A refusal with this status and this code: it says that there was no success, gives the
code and a message, and holds nothing else. -/
def Refused (status : Nat) (code : String) (a : WebResponse) : Prop :=
  a.status = status ∧ ∃ message, Data.ofJson? a.body = some (.record
    [("success", .bool false), ("error", .text code), ("message", .text message)])

theorem succeeded_json (o : Outcome) : Succeeded (.json 200 (Response.ofOutcome o).toData) := by
  refine ⟨rfl, ?_⟩
  show ((Data.ofJson? (Response.ofOutcome o).toData.toJson).bind _) = _
  rw [Data.ofJson?_toJson (Response.writable_toData _)]
  rfl

theorem refused_refuse (f : Failure) :
    Refused (status (f.refusal Refusal.unassigned)) (f.refusal Refusal.unassigned).code
      (refuse f) := by
  exact ⟨rfl, (f.refusal Refusal.unassigned).userMessage,
    Data.ofJson?_toJson (Refusal.writable_toData _)⟩

/-- A message that asks for something to be carried out. -/
structure IsOrder (m : WebRequest) : Prop where
  method : m.method = "POST"
  path : m.path = Route.execute.path

theorem answer_of_isOrder (h : IsOrder m) (e : Engine) (now : String) :
    answer e now m = execute e m := by
  have hroute : Route.ofPath? Route.execute.path = some .execute := by decide
  unfold answer
  rw [h.path, hroute]
  simp [h.method, Route.takes, serve]

/-! ### What callers are not told -/

end Server

/-- Two stores that hold the same, or that both fail. -/
inductive Source.Alike {α : Type} : Source α → Source α → Prop
  | available (value : α) : Alike (.available value) (.available value)
  | offline (reason reason' : String) : Alike (.offline reason) (.offline reason')

/-- Two engines that differ at most in the words in which their stores fail. -/
structure Engine.Alike (e e' : Engine) : Prop where
  rules : e.rules.Alike e'.rules
  directory : e.directory.Alike e'.directory
  notifier : e.notifier = e'.notifier

/-- Two results that a caller cannot tell apart: the same outcome, the same fault of the caller,
or stores that failed in some way. -/
inductive Server.Indistinct : Except Failure Outcome → Except Failure Outcome → Prop
  | outcome (o : Outcome) : Indistinct (.ok o) (.ok o)
  | validation (cause : ValidationError) :
    Indistinct (.error (.validation cause)) (.error (.validation cause))
  | catalog (cause cause' : CatalogError) :
    Indistinct (.error (.catalog cause)) (.error (.catalog cause'))

/-- **Engines that are alike decide the same, or fail both.** -/
theorem Engine.Alike.indistinct {e e' : Engine} (h : e.Alike e') (r : ApprovalRequest) :
    Server.Indistinct ((e.decision r).mapError .catalog) ((e'.decision r).mapError .catalog) := by
  obtain ⟨rules, directory, notifier⟩ := e
  obtain ⟨rules', directory', notifier'⟩ := e'
  obtain ⟨hrules, hdirectory, -⟩ := h
  simp only at hrules hdirectory
  cases hrules with
  | offline reason reason' => exact .catalog ..
  | available c =>
      rw [Engine.decision_of_rules rfl, Engine.decision_of_rules rfl]
      cases hdirectory with
      | available d =>
          cases Rule.matching c.rules r with
          | nil => exact .outcome _
          | cons rule rest => exact .outcome _
      | offline reason reason' =>
          -- without a matching rule nobody asks the directory
          cases Rule.matching c.rules r with
          | nil => exact .outcome _
          | cons rule rest => exact .catalog ..

namespace Server

variable {e e' : Engine} {x x' : Except Failure Outcome}

theorem Indistinct.answerTo_eq (h : Indistinct x x') : answerTo x = answerTo x' := by
  cases h <;> rfl

theorem indistinct_run (h : e.Alike e') (b : RequestBody) (j j' : Journal) :
    Indistinct ((Server.run e b).run j).1 ((Server.run e' b).run j').1 := by
  rw [run_run, run_run]
  cases b.request with
  | error cause => exact .validation cause
  | ok r => exact h.indistinct r

theorem indistinct_runForm (h : e.Alike e') (f : SubmittedForm) (j j' : Journal) :
    Indistinct ((runForm e f).run j).1 ((runForm e' f).run j').1 := by
  unfold runForm
  cases Decimal.parseTyped f.amount with
  | error cause => exact .validation cause
  | ok amount => exact indistinct_run h _ j j'

/-- The page that is shown again with what came of a form. -/
def pageTo (f : SubmittedForm) : Except Failure Outcome → WebResponse
  | .ok o => .page 200 (Page.render f.values (.result (Response.ofOutcome o)))
  | .error failure =>
    .page (status (failure.refusal Refusal.unassigned))
      (Page.render f.values (.error (failure.refusal Refusal.unassigned).userMessage))

theorem Indistinct.pageTo_eq (h : Indistinct x x') (f : SubmittedForm) :
    pageTo f x = pageTo f x' := by
  cases h <;> rfl

/-- A form that can be read is run, and the page is shown with what comes of that. -/
theorem submit_of_form {m : WebRequest} {f : SubmittedForm} (h : readForm m = .ok f)
    (e : Engine) (j : Journal) :
    ((submit e m).run j).1 = pageTo f ((runForm e f).run j).1 := by
  unfold submit
  rw [h]
  simp only [StateT.run_bind]
  cases (runForm e f).run j with
  | mk result left => cases result <;> rfl

/-- A form that cannot be read is refused, and that is all. -/
theorem submit_of_refusal {m : WebRequest} {refusal : WebResponse} (h : readForm m = .error refusal)
    (e : Engine) (j : Journal) : (submit e m).run j = (refusal, j) := by
  unfold submit
  rw [h]
  rfl

/-- **On every route but one, callers are told nothing of how a store failed.** -/
theorem serve_of_alike (h : e.Alike e') (now : String) (m : WebRequest) {route : Route}
    (hroute : route ≠ .health) (j j' : Journal) :
    ((serve e now m route).run j).1 = ((serve e' now m route).run j').1 := by
  cases route with
  | page => rfl
  | departments => rfl
  | health => exact absurd rfl hroute
  | rules =>
      show Server.rules e = Server.rules e'
      obtain ⟨source, directory, notifier⟩ := e
      obtain ⟨source', directory', notifier'⟩ := e'
      have hrules : source.Alike source' := h.rules
      cases hrules <;> rfl
  | execute =>
      show ((execute e m).run j).1 = ((execute e' m).run j').1
      rw [execute_run, execute_run]
      unfold resultOf
      cases requestOf m with
      | error cause => rfl
      | ok r => exact (h.indistinct r).answerTo_eq
  | submit =>
      show ((submit e m).run j).1 = ((submit e' m).run j').1
      cases hform : readForm m with
      | error refusal => rw [submit_of_refusal hform, submit_of_refusal hform]
      | ok f =>
          rw [submit_of_form hform, submit_of_form hform]
          exact (indistinct_runForm h f j j').pageTo_eq f

/-- **Engines that are alike give the same answers.** -/
theorem answer_of_alike (h : e.Alike e') (now : String) (m : WebRequest)
    (hpath : m.path ≠ Route.health.path) (j j' : Journal) :
    ((answer e now m).run j).1 = ((answer e' now m).run j').1 := by
  unfold answer
  cases hroute : Route.ofPath? m.path with
  | none => rfl
  | some route =>
      have hother : route ≠ .health := by
        rintro rfl
        have hfound := List.find?_some (p := fun route : Route => route.path == m.path) hroute
        exact hpath (beq_iff_eq.1 hfound).symm
      have hserve := serve_of_alike h now m hother j j'
      dsimp only
      by_cases hmethod : m.method = if route.takes then "POST" else "GET"
      · rw [if_pos hmethod, if_pos hmethod, hserve]
      · rw [if_neg hmethod, if_neg hmethod]
        by_cases hhead : (!route.takes && decide (m.method = "HEAD")) = true
        · rw [if_pos hhead, if_pos hhead]
          exact congrArg WebResponse.headOnly hserve
        · rw [if_neg hhead, if_neg hhead]
          rfl

/-! ### All of it -/

/-- How a message is answered that asks for a request to be carried out: `found` and `left` are
the journals before and behind it. -/
structure OrderAnswered (e : Engine) (m : WebRequest) (a : WebResponse) (found left : Journal) :
    Prop where
  /-- There are three answers. -/
  three : Succeeded a ∨ Refused 400 "INVALID_REQUEST" a ∨ Refused 500 "INTERNAL_ERROR" a
  /-- There was success exactly if the message asks for a request and the run does not fail. -/
  succeeded : Succeeded a ↔ ∃ r o, Asks m r ∧ (e.run r found).1 = .ok o
  /-- It is the caller's fault exactly if the message asks for none. -/
  invalid : Refused 400 "INVALID_REQUEST" a ↔ ¬ ∃ r, Asks m r
  /-- It is the program's fault exactly if the message asks for a request and the run fails. -/
  failed : Refused 500 "INTERNAL_ERROR" a ↔
    ∃ r cause, Asks m r ∧ (e.run r found).1 = .error cause
  /-- A message that was refused has notified nobody. -/
  unnotified : a.status ≠ 200 → found.SameNotices left

theorem Succeeded.not_refused {a : WebResponse} (h : Succeeded a) {status : Nat} {code : String}
    (hstatus : status ≠ 200) : ¬ Refused status code a :=
  fun hrefused => hstatus (hrefused.1.symm.trans h.1)

theorem Refused.not_succeeded {a : WebResponse} {status : Nat} {code : String}
    (h : Refused status code a) (hstatus : status ≠ 200) : ¬ Succeeded a :=
  fun hsucceeded => hstatus (h.1.symm.trans hsucceeded.1)

theorem Refused.not_refused {a : WebResponse} {status status' : Nat} {code code' : String}
    (h : Refused status code a) (hstatus : status ≠ status') : ¬ Refused status' code' a :=
  fun hother => hstatus (h.1.symm.trans hother.1)

/-- The requests that a message asks for are one. -/
theorem Asks.unique {m : WebRequest} {r r' : ApprovalRequest} (h : Asks m r) (h' : Asks m r') :
    r = r' := by
  rw [← requestOf_eq_ok_iff] at h h'
  exact Except.ok.inj (h.symm.trans h')

theorem orderAnswered_invalid (h : ¬ ∃ r, Asks m r) (e : Engine) (cause : ValidationError)
    (j : Journal) : OrderAnswered e m (refuse (.validation cause)) j j := by
  have hrefused : Refused 400 "INVALID_REQUEST" (refuse (.validation cause)) :=
    refused_refuse (.validation cause)
  refine ⟨.inr (.inl hrefused), ?_, ?_, ?_, fun _ => .refl j⟩
  · exact iff_of_false (hrefused.not_succeeded (by decide)) fun ⟨r, o, hr, _⟩ => h ⟨r, hr⟩
  · exact iff_of_true hrefused h
  · exact iff_of_false (hrefused.not_refused (by decide)) fun ⟨r, c, hr, _⟩ => h ⟨r, hr⟩

theorem orderAnswered_carriedOut (hasks : Asks m r) {o : Outcome} (hrun : (e.run r j).1 = .ok o) :
    OrderAnswered e m (.json 200 (Response.ofOutcome o).toData) j (e.run r j).2 := by
  have hsucceeded : Succeeded (.json 200 (Response.ofOutcome o).toData) := succeeded_json o
  refine ⟨.inl hsucceeded, ?_, ?_, ?_, fun hstatus => absurd rfl hstatus⟩
  · exact iff_of_true hsucceeded ⟨r, o, hasks, hrun⟩
  · exact iff_of_false (hsucceeded.not_refused (by decide)) fun hnone => hnone ⟨r, hasks⟩
  · refine iff_of_false (hsucceeded.not_refused (by decide)) ?_
    rintro ⟨r', cause, hasks', hfails⟩
    obtain rfl := hasks.unique hasks'
    exact nomatch hrun.symm.trans hfails

theorem orderAnswered_failed (hasks : Asks m r) {cause : CatalogError}
    (hdecision : e.decision r = .error cause) :
    OrderAnswered e m (refuse (.catalog cause)) j (e.run r j).2 := by
  have hfails : (e.run r j).1 = .error cause := by rw [Engine.run_eq, hdecision]
  have hrefused : Refused 500 "INTERNAL_ERROR" (refuse (.catalog cause)) :=
    refused_refuse (.catalog cause)
  refine ⟨.inr (.inr hrefused), ?_, ?_, ?_,
    fun _ => Engine.sameNotices_of_decision_error hdecision j⟩
  · refine iff_of_false (hrefused.not_succeeded (by decide)) ?_
    rintro ⟨r', o, hasks', hruns⟩
    obtain rfl := hasks.unique hasks'
    exact nomatch hruns.symm.trans hfails
  · exact iff_of_false (hrefused.not_refused (by decide)) fun hnone => hnone ⟨r, hasks⟩
  · exact iff_of_true hrefused ⟨r, cause, hasks, hfails⟩

theorem orderAnswered_execute (e : Engine) (m : WebRequest) (j : Journal) :
    OrderAnswered e m ((execute e m).run j).1 j ((execute e m).run j).2 := by
  rw [execute_run]
  unfold resultOf journalAfter
  cases hrequest : requestOf m with
  | error cause =>
      have hnone : ¬ ∃ r, Asks m r := by
        rintro ⟨r, hr⟩
        rw [← requestOf_eq_ok_iff, hrequest] at hr
        exact nomatch hr
      exact orderAnswered_invalid hnone e cause j
  | ok r =>
      have hasks : Asks m r := requestOf_eq_ok_iff.1 hrequest
      dsimp only
      cases hdecision : e.decision r with
      | ok o => exact orderAnswered_carriedOut hasks (by rw [Engine.run_eq, hdecision])
      | error cause => exact orderAnswered_failed hasks hdecision

/--
**Three answers, and nothing beside them.**

A message that asks for a request to be carried out is `OrderAnswered`, whatever stands in it,
however long it is and whatever it says that it is.  And no answer hangs on the words in which a
store fails, neither to such a message nor to any other but one that asks how the service stands.
-/
theorem order_answered (e : Engine) (now : String) {m : WebRequest} (horder : IsOrder m)
    (j : Journal) :
    OrderAnswered e m ((answer e now m).run j).1 j ((answer e now m).run j).2 ∧
    ∀ e', e.Alike e' → ∀ other : WebRequest, other.path ≠ Route.health.path → ∀ j₁ j₂,
      ((answer e now other).run j₁).1 = ((answer e' now other).run j₂).1 := by
  constructor
  · rw [answer_of_isOrder horder]
    exact orderAnswered_execute e m j
  · intro e' halike other hpath j₁ j₂
    exact answer_of_alike halike now other hpath j₁ j₂

/-- A message that asks for a seven to be carried out, with zeros in front of the seven. -/
def zeroFilledOrder (contentType : String) (zeros : Nat) : WebRequest :=
  ⟨"POST", Route.execute.path, some contentType,
    (RequestBody.document (Decimal.zeroFilled zeros) "SALES" false).toJson⟩

/-- What it asks for. -/
def orderedSeven : ApprovalRequest := ⟨.ofNat 7, .sales, false, rfl⟩

theorem readBytes_zeroFilledOrder (contentType : String) (zeros : Nat) :
    RequestBody.readBytes (zeroFilledOrder contentType zeros).body.bytes
      = .ok ⟨.ofNat 7, "SALES", false⟩ := by
  show RequestBody.readBytes (Text.encode _) = _
  rw [RequestBody.readBytes_encode]
  exact RequestBody.read_of_document (Data.ofJson?_toJson (RequestBody.writable_document ..))
    (Decimal.readLiteral_zeroFilled zeros)

theorem isOrder_zeroFilledOrder (contentType : String) (zeros : Nat) :
    IsOrder (zeroFilledOrder contentType zeros) := by
  refine ⟨rfl, ?_⟩
  simp only [WebRequest.path, zeroFilledOrder]
  decide +kernel

/-- A body that can be read is not enough: one that is too long is refused, and so is one that
does not say that it is JSON. -/
theorem readable_orders_refused :
    let e : Engine :=
      ⟨.available Seed.configuration, .available (Directory.ofList Seed.approvers), .outbox⟩
    (∃ o, (e.run orderedSeven Journal.empty).1 = .ok o) ∧
    ∀ m ∈ [zeroFilledOrder "application/json" MessageBody.limit, zeroFilledOrder "text/plain" 0],
      IsOrder m ∧
        (∃ b, RequestBody.readBytes m.body.bytes = .ok b ∧ b.request = .ok orderedSeven) ∧
        Refused 400 "INVALID_REQUEST" ((answer e "" m).run Journal.empty).1 ∧
        ¬ Succeeded ((answer e "" m).run Journal.empty).1 := by
  intro e
  have hrun := (Engine.run_available Seed.configuration (Directory.ofList Seed.approvers) .outbox
    orderedSeven Journal.empty).1
  have hrefused : ∀ contentType zeros, (¬ ∃ r, Asks (zeroFilledOrder contentType zeros) r) →
      IsOrder (zeroFilledOrder contentType zeros) ∧
        (∃ b, RequestBody.readBytes (zeroFilledOrder contentType zeros).body.bytes = .ok b ∧
          b.request = .ok orderedSeven) ∧
        Refused 400 "INVALID_REQUEST"
          ((answer e "" (zeroFilledOrder contentType zeros)).run Journal.empty).1 ∧
        ¬ Succeeded ((answer e "" (zeroFilledOrder contentType zeros)).run Journal.empty).1 := by
    intro contentType zeros hnone
    have horder := isOrder_zeroFilledOrder contentType zeros
    have hanswer : Refused 400 "INVALID_REQUEST"
        ((answer e "" (zeroFilledOrder contentType zeros)).run Journal.empty).1 := by
      rw [answer_of_isOrder horder]
      exact (orderAnswered_execute e _ Journal.empty).invalid.2 hnone
    exact ⟨horder, ⟨_, readBytes_zeroFilledOrder contentType zeros, by decide⟩, hanswer,
      hanswer.not_succeeded (by decide)⟩
  refine ⟨⟨_, hrun⟩, List.forall_mem_cons.2 ⟨hrefused _ _ ?_, List.forall_mem_singleton.2
    (hrefused _ _ ?_)⟩⟩
  · rintro ⟨r, hasks⟩
    exact not_fits_document (by rw [Decimal.length_zeroFilled]; exact Nat.lt_succ_self _) "SALES"
      false hasks.fits
  · rintro ⟨r, hasks⟩
    have htype : MediaType.isJson "text/plain" = false := by decide
    exact absurd hasks.contentType (by simp [zeroFilledOrder, htype])

/-- A message to a whole address, with a media type that has a suffix and a parameter. -/
def addressedOrder : WebRequest :=
  ⟨"POST", "http://approvals.local/workflow/execute?trace=1",
    some "Application/Vnd.Approval+JSON; charset=utf-8",
    "\x7b\"amount\": 1005, \"department\": \"Hr\", \"requiresManagerApproval\": true\x7d"⟩

/-- What it asks for. -/
def addressedRequest : ApprovalRequest := ⟨.ofNat 1005, .hr, true, rfl⟩

/-- An engine of which the directory fails with these words. -/
def engineWithout (reason : String) : Engine :=
  ⟨.available Seed.configuration, .offline reason, .log "slack"⟩

theorem order_answered_offline :
    let a := ((answer (engineWithout "disk failure") "" addressedOrder).run Journal.empty).1
    IsOrder addressedOrder ∧ Asks addressedOrder addressedRequest ∧
      Refused 500 "INTERNAL_ERROR" a ∧
      Journal.empty.SameNotices
        ((answer (engineWithout "disk failure") "" addressedOrder).run Journal.empty).2 ∧
      a = ((answer (engineWithout "timeout") "" addressedOrder).run Journal.empty).1 := by
  intro a
  have horder : IsOrder addressedOrder := ⟨rfl, by decide +kernel⟩
  have hasks : Asks addressedOrder addressedRequest :=
    requestOf_eq_ok_iff.1 (by decide +kernel)
  have hfails : ((engineWithout "disk failure").run addressedRequest Journal.empty).1
      = .error (.unavailable "disk failure") := by
    rw [Engine.run_eq]
    refine Engine.decision_error_iff.2 (.inr ⟨rfl, Seed.configuration, rfl, ?_⟩)
    decide +kernel
  have halike : (engineWithout "disk failure").Alike (engineWithout "timeout") :=
    ⟨.available _, .offline .., rfl⟩
  obtain ⟨hanswered, hsame⟩ := order_answered (engineWithout "disk failure") "" horder Journal.empty
  have hrefused : Refused 500 "INTERNAL_ERROR" a := hanswered.failed.2 ⟨_, _, hasks, hfails⟩
  refine ⟨horder, hasks, hrefused, hanswered.unnotified ?_, hsame _ halike _ ?_ _ _⟩
  · rw [hrefused.1]
    decide
  · rw [horder.path]
    decide

end Server

end InvoiceApproval
