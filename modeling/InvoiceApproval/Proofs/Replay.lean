/-
Sending a response back.

A response holds the three values of its request, so it can be taken for a request once more:
`Repeats` is a body with these three fields of a response, each as it stands there, in any
order.

Such a body is read as the request that was decided, digit by digit.  An amount is written
with its scale and read with it, and nothing is rounded on the way.  One mark is lost, and it
says nothing: a zero that is written with a minus sign is read without it (`dropZeroSign`).
The number is the same, so it stands alike to every threshold, and a run decides the same for
it (`decision_of_value_eq`).  Only the answer is written without the sign.

Nothing that stands in the three fields is long, so the service reads such a body unless it is
filled up with blanks (`fits_of_fields`).
-/
import InvoiceApproval.Proofs.FrontEnds
import InvoiceApproval.Proofs.Server.Answers
import InvoiceApproval.Proofs.Threshold

namespace InvoiceApproval

/-! ### The same number, written in another way -/

/-- **What a run decides hangs on the number that an amount is, not on how it is written.** -/
theorem Engine.decision_of_value_eq (e : Engine) {r s : ApprovalRequest}
    (hdepartment : r.department = s.department)
    (hmanager : r.requiresManagerApproval = s.requiresManagerApproval)
    (hvalue : r.amount.value = s.amount.value) :
    e.decision s = (e.decision r).map fun o => { o with request := s } := by
  obtain ⟨rules, directory, notifier⟩ := e
  cases rules with
  | offline reason => rfl
  | available c =>
      have hside : SameSide c.thresholds r.amount.value s.amount.value := by
        intro t _
        rw [hvalue]
      have hmatching := Rule.matching_of_sameSide hdepartment hmanager hside
      rw [decision_of_rules (c := c) rfl, decision_of_rules (c := c) rfl, hmatching]
      cases Rule.matching c.rules s with
      | nil => rfl
      | cons rule rest =>
          cases directory with
          | offline reason => rfl
          | available d =>
              rw [selection_available, selection_available, d.chosen_of_department_eq hdepartment]
              rfl

namespace ApprovalRequest

/-- A request of which an amount of zero has lost its sign. -/
def dropZeroSign (r : ApprovalRequest) : ApprovalRequest where
  amount := r.amount.dropZeroSign
  department := r.department
  requiresManagerApproval := r.requiresManagerApproval
  amount_nonneg := by
    rw [Decimal.isNegative_dropZeroSign]
    exact r.amount_nonneg

theorem dropZeroSign_eq_self_iff (r : ApprovalRequest) :
    r.dropZeroSign = r ↔ r.amount.Signed := by
  obtain ⟨amount, department, flag, hnonneg⟩ := r
  simp only [dropZeroSign, mk.injEq, and_self, and_true]
  exact amount.dropZeroSign_eq_self_iff

/-- A request as it stands in a body. -/
def body (r : ApprovalRequest) : RequestBody :=
  ⟨r.amount, r.department.name, r.requiresManagerApproval⟩

theorem request_body (r : ApprovalRequest) : r.body.request = .ok r :=
  Server.request_eq_ok_iff.2 ⟨r.department.asciiUpper_name,
    fun h => absurd ((Decimal.isNegative_iff _).2 h) (by simp [body, r.amount_nonneg]), rfl, rfl⟩

end ApprovalRequest

/-! ### A response as a request -/

/-- The texts in which a response is written. -/
def Response.written (r : Response) : List String := [r.toData.toJson, r.toData.toIndentedJson]

theorem Response.ofJson?_written {r : Response} {answer : String} (h : answer ∈ r.written) :
    Data.ofJson? answer = some r.toData := by
  simp only [written, List.mem_cons, List.not_mem_nil, or_false] at h
  rcases h with rfl | rfl
  · exact Data.ofJson?_toJson r.writable_toData
  · exact Data.ofJson?_toIndentedJson r.writable_toData

/-- A body that repeats a response: a record of the three fields of a request, each as it stands
in the response, in any order. -/
def Repeats (answer body : String) : Prop :=
  ∃ told fields, Data.ofJson? answer = some told ∧ Data.ofJson? body = some (.record fields) ∧
    (fields.map Prod.fst).Perm RequestBody.fieldNames ∧ ∀ f ∈ fields, told.field? f.1 = some f.2

/-- The three fields of a request as they stand in a response, from the last to the first. -/
def Response.requestFields (r : Response) : List (String × Data) :=
  [("requiresManagerApproval", .bool r.requiresManagerApproval),
    ("department", .text r.department.name), ("amount", .number r.amount.toText)]

/-- A body that repeats a response, without any blanks. -/
def Response.sentBack (r : Response) : String := (Data.record r.requestFields).toJson

theorem Response.names_requestFields (r : Response) :
    (r.requestFields.map Prod.fst).Perm RequestBody.fieldNames := by
  show ["requiresManagerApproval", "department", "amount"].Perm RequestBody.fieldNames
  decide

theorem Response.field?_of_mem_requestFields (r : Response) :
    ∀ f ∈ r.requestFields, r.toData.field? f.1 = some f.2 := by
  simp only [requestFields, List.forall_mem_cons, List.not_mem_nil, false_implies, implies_true,
    and_true]
  exact ⟨rfl, rfl, rfl⟩

theorem repeats_sentBack (r : Response) : Repeats r.toData.toJson r.sentBack := by
  have hwritable : (Data.record r.requestFields).Writable :=
    ⟨⟨trivial, trivial, Data.writable_amount r.amount, trivial⟩, rfl⟩
  exact ⟨r.toData, r.requestFields, Data.ofJson?_toJson r.writable_toData,
    Data.ofJson?_toJson hwritable, r.names_requestFields, r.field?_of_mem_requestFields⟩

section

variable {e : Engine} {r : ApprovalRequest} {o : Outcome} {answer body : String}

/-- What stands in a response for the three values is what they are read from. -/
theorem holds_of_field?_toData (horder : o.request = r) {name : String} {d : Data}
    (hname : name ∈ RequestBody.fieldNames)
    (hfield : (Response.ofOutcome o).toData.field? name = some d) :
    r.dropZeroSign.body.Holds name d := by
  subst horder
  simp only [RequestBody.fieldNames, List.mem_cons, List.not_mem_nil, or_false] at hname
  rcases hname with rfl | rfl | rfl
  · cases hfield
    exact .amount o.request.amount.readLiteral_own_text
  · cases hfield
    exact .department
  · cases hfield
    exact .requiresManagerApproval

/-- **A response that is sent back is read as its request.** -/
theorem read_of_repeats (horder : o.request = r) (hanswer : answer ∈ (Response.ofOutcome o).written)
    (hbody : Repeats answer body) : RequestBody.read body = .ok r.dropZeroSign.body := by
  obtain ⟨told, fields, htold, hfields, hnames, hsame⟩ := hbody
  obtain rfl := Option.some.inj ((Response.ofJson?_written hanswer).symm.trans htold)
  refine RequestBody.read_of_fields hfields hnames fun f hf => ?_
  exact holds_of_field?_toData horder (hnames.mem_iff.1 (List.mem_map_of_mem hf)) (hsame f hf)

/-- **The three fields of a response make a short body**, in any order. -/
theorem fits_of_fields {r : Response} {fields : List (String × Data)}
    (hnames : (fields.map Prod.fst).Perm RequestBody.fieldNames)
    (hsame : ∀ f ∈ fields, r.toData.field? f.1 = some f.2) :
    MessageBody.Fits (Data.record fields).toJson := by
  have hfield : ∀ f ∈ fields, (Data.quoted f.1).length + (Data.compactChars f.2).length ≤ 60 := by
    rintro ⟨name, d⟩ hf
    have hname := hnames.mem_iff.1 (List.mem_map_of_mem hf)
    have hd := hsame _ hf
    simp only [RequestBody.fieldNames, List.mem_cons, List.not_mem_nil, or_false] at hname
    rcases hname with rfl | rfl | rfl
    · cases hd
      have hamount := r.amount.length_chars_le
      have hquoted : (Data.quoted "amount").length = 8 := by decide
      show (Data.quoted "amount").length + r.amount.toText.toList.length ≤ 60
      rw [hquoted, Decimal.toText, String.toList_ofList]
      omega
    · cases hd
      have hall : ∀ d : Department,
          (Data.quoted "department").length + (Data.quoted d.name).length ≤ 60 := by
        intro d
        cases d <;> decide
      exact hall r.department
    · cases hd
      have hall : ∀ b : Bool, (Data.quoted "requiresManagerApproval").length
          + (Data.compactChars (.bool b)).length ≤ 60 := by decide
      exact hall r.requiresManagerApproval
  have hcount : fields.length = 3 := by simpa [RequestBody.fieldNames] using hnames.length_eq
  have hfields := Data.length_compactFields_le hfield
  have hjson : (Data.record fields).toJson.toList.length
      = (Data.compactFields fields).length + 2 := by
    unfold Data.toJson
    rw [String.toList_ofList, Data.compactChars]
    simp
  have hbytes := (Text.length_encode (Data.record fields).toJson).2
  rw [hcount] at hfields
  show (Text.encode _).length ≤ 2097152
  omega

theorem Response.fits_sentBack (r : Response) : MessageBody.Fits r.sentBack :=
  fits_of_fields r.names_requestFields r.field?_of_mem_requestFields

/-- A body that repeats a response is short, if there are no blanks in it. -/
theorem fits_of_repeats (hanswer : answer ∈ (Response.ofOutcome o).written)
    (hbody : Repeats answer body) {fields : List (String × Data)}
    (hfields : Data.ofJson? body = some (.record fields))
    (hcompact : body = (Data.record fields).toJson) : MessageBody.Fits body := by
  obtain ⟨told, fields', htold, hfields', hnames, hsame⟩ := hbody
  obtain rfl := Option.some.inj ((Response.ofJson?_written hanswer).symm.trans htold)
  cases Option.some.inj (hfields.symm.trans hfields')
  rw [hcompact]
  exact fits_of_fields hnames hsame

/-- The response that is given to a response that is sent back. -/
def Response.replayed (r : Response) : Response := { r with amount := r.amount.dropZeroSign }

theorem Response.toJson_replayed_eq_iff (r : Response) :
    r.replayed.toData.toJson = r.toData.toJson ↔ r.amount.Signed := by
  rw [← Decimal.toText_dropZeroSign_eq_iff]
  constructor
  · intro h
    have hread := Data.ofJson?_toJson r.replayed.writable_toData
    rw [h, Data.ofJson?_toJson r.writable_toData] at hread
    have hfield := congrArg (fun d : Data => d.field? "amount") (Option.some.inj hread)
    exact (Data.number.inj (Option.some.inj hfield)).symm
  · intro h
    have hdata : r.replayed.toData = r.toData := by
      unfold toData
      rw [show r.replayed.amount.toText = r.amount.toText from h]
      rfl
    rw [hdata]

/-- **The engine that gave a response gives it again.** -/
theorem reply_of_repeats (hdecision : e.decision r = .ok o)
    (hanswer : answer ∈ (Response.ofOutcome o).written) (hbody : Repeats answer body)
    (hfits : MessageBody.Fits body) (now : String) (k : Journal) :
    reply e now k (sentDocument body) = .json 200 (Response.ofOutcome o).replayed.toData := by
  have horder := (Engine.decision_ok hdecision).1
  have hread := read_of_repeats horder hanswer hbody
  have hreplayed := e.decision_of_value_eq (r := r) (s := r.dropZeroSign) rfl rfl
    r.amount.value_dropZeroSign.symm
  rw [hdecision] at hreplayed
  obtain ⟨k', hrun⟩ := run_of_ok r.dropZeroSign.request_body hreplayed k
  rw [reply_of_read hfits hread hrun]
  subst horder
  rfl

end

/-- What comes of a request whose response is sent back in this body. -/
structure Replayed (e : Engine) (r : ApprovalRequest) (o : Outcome) (body : String)
    (answer : WebResponse) : Prop where
  /-- The body is read as the request, but for the sign of a zero. -/
  read : ∃ b, RequestBody.read body = .ok b ∧ b.request = .ok r.dropZeroSign
  /-- That is the request itself, unless its amount is a zero with a sign. -/
  request : r.dropZeroSign = r ↔ r.amount.Signed
  /-- The body is not too long for the service, if there are no blanks in it. -/
  fits : ∀ fields, Data.ofJson? body = some (.record fields) →
    body = (Data.record fields).toJson → MessageBody.Fits body
  /-- The answer is the response, but for the sign of a zero. -/
  answered : MessageBody.Fits body → answer = .json 200 (Response.ofOutcome o).replayed.toData
  /-- That is the same text, unless the amount is a zero with a sign. -/
  repeated : MessageBody.Fits body →
    (answer.body = (Response.ofOutcome o).toData.toJson ↔ r.amount.Signed)

/--
**A response can be sent back.**

The three values of a response, in whatever order, are a body that is read as the request that
was decided: with the same magnitude and scale, the same department and the same flag.  The
engine gives the same response, unless the body is filled up with more blanks than the service
reads.  Only a zero that is written with a minus sign loses it, in the
request and in the response.  Nor does an amount lose anything else if it is typed as it is
written.
-/
theorem response_replayed {e : Engine} {r : ApprovalRequest} {j : Journal} {o : Outcome}
    (hrun : (e.run r j).1 = .ok o) {answer body : String}
    (hanswer : answer ∈ (Response.ofOutcome o).written) (hbody : Repeats answer body)
    (now : String) (k : Journal) :
    Replayed e r o body (reply e now k (sentDocument body)) ∧
      Decimal.parseTyped r.amount.toText = .ok r.amount.dropZeroSign ∧
      r.amount.dropZeroSign.magnitude = r.amount.magnitude ∧
      r.amount.dropZeroSign.scale = r.amount.scale ∧
      r.amount.dropZeroSign.value = r.amount.value := by
  rw [Engine.run_eq] at hrun
  have horder := (Engine.decision_ok hrun).1
  have hreply := fun hfits => reply_of_repeats hrun hanswer hbody hfits now k
  refine ⟨⟨⟨_, read_of_repeats horder hanswer hbody, r.dropZeroSign.request_body⟩,
    r.dropZeroSign_eq_self_iff, fun _ => fits_of_repeats hanswer hbody, hreply, fun hfits => ?_⟩,
    ?_, rfl, rfl, r.amount.value_dropZeroSign⟩
  · rw [hreply hfits, ← horder]
    exact Response.toJson_replayed_eq_iff _
  · exact Decimal.parseTyped_eq_ok_iff.2 r.amount.readTyped_own_text

/-- An engine on the built-in catalog. -/
def seedEngine : Engine :=
  ⟨.available Seed.configuration, .available (Directory.ofList Seed.approvers), .outbox⟩

/-- A request of the smallest amount above zero. -/
def smallest : ApprovalRequest :=
  ⟨⟨false, 1, 28, by decide, Decimal.full_scale_le⟩, .operations, false, rfl⟩

theorem response_replayed_smallest :
    ∃ o, (seedEngine.run smallest Journal.empty).1 = .ok o ∧
      (Response.ofOutcome o).toData.toJson ∈ (Response.ofOutcome o).written ∧
      Repeats (Response.ofOutcome o).toData.toJson (Response.ofOutcome o).sentBack ∧
      smallest.dropZeroSign = smallest ∧
      (reply seedEngine "" Journal.empty (sentDocument (Response.ofOutcome o).sentBack)).body
        = (Response.ofOutcome o).toData.toJson ∧
      smallest.amount.toText = "0.0000000000000000000000000001" ∧
      Decimal.parseTyped "0.0000000000000000000000000001" = .ok smallest.amount := by
  have hrun := (Engine.run_available Seed.configuration (Directory.ofList Seed.approvers) .outbox
    smallest Journal.empty).1
  have hwritten : ∀ r : Response, r.toData.toJson ∈ r.written := fun r => List.mem_cons_self
  obtain ⟨hreplayed, htyped, -⟩ := response_replayed (e := seedEngine) hrun (hwritten _)
    (repeats_sentBack _) "" Journal.empty
  have hsigned : smallest.amount.Signed := fun h => nomatch h
  have hsame := hreplayed.request.2 hsigned
  rw [show smallest.amount.dropZeroSign = smallest.amount from
    congrArg ApprovalRequest.amount hsame] at htyped
  exact ⟨_, hrun, hwritten _, repeats_sentBack _, hsame,
    (hreplayed.repeated (Response.fits_sentBack _)).2 hsigned, by decide, htyped⟩

/-- A body that asks for an amount so close to zero that none of its digits can be held. -/
def vanishing : String :=
  "\x7b\"amount\":-0.04e-28,\"department\":\"SALES\",\"requiresManagerApproval\":true\x7d"

/-- What it asks for: a zero with a minus sign. -/
def signedZero : ApprovalRequest :=
  ⟨⟨true, 0, 28, by decide, Decimal.full_scale_le⟩, .sales, true, rfl⟩

/-- A response with a signed zero is not given again. -/
theorem signed_zero_not_repeated :
    RequestBody.read vanishing = .ok signedZero.body ∧
      signedZero.body.request = .ok signedZero ∧
      ∃ o, (seedEngine.run signedZero Journal.empty).1 = .ok o ∧
        Repeats (Response.ofOutcome o).toData.toJson (Response.ofOutcome o).sentBack ∧
        (reply seedEngine "" Journal.empty (sentDocument (Response.ofOutcome o).sentBack)).body
          ≠ (Response.ofOutcome o).toData.toJson := by
  have hrun := (Engine.run_available Seed.configuration (Directory.ofList Seed.approvers) .outbox
    signedZero Journal.empty).1
  refine ⟨by decide +kernel, signedZero.request_body, _, hrun, repeats_sentBack _, ?_⟩
  rw [Engine.run_eq] at hrun
  rw [reply_of_repeats (e := seedEngine) hrun List.mem_cons_self (repeats_sentBack _)
    (Response.fits_sentBack _)]
  intro hsame
  exact (Response.toJson_replayed_eq_iff _).1 hsame rfl rfl

end InvoiceApproval
