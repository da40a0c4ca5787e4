/-
What is written into answers, and what is found in them.

An answer is a text, and two things are asked of it.  It has to be JSON by the grammar, so
that every reader can read it (`Json.Denotes`), and what is read has to be what was to be said.
Both hold of whatever can be written (`JsonText`), and a response and the report of a failure can
always be written, whatever characters stand in their texts.

A response is read back field by field.  Its amount keeps all of its digits and its scale.  A
zero may have been written with a minus sign, and is read without it: that is the same
number, and no other decimal changes at all (`Response.Same`).
-/
import InvoiceApproval.Proofs.FrontEnds
import InvoiceApproval.Proofs.Json.Grammar

namespace InvoiceApproval

/-- A text that is JSON, and is read as the document that it denotes. -/
structure JsonText (text : String) (d : Data) : Prop where
  wellFormed : Json.Denotes text d
  read : Data.ofJson? text = some d

theorem jsonText_toJson {d : Data} (h : d.Writable) : JsonText d.toJson d :=
  ⟨Json.denotes_toJson h, Data.ofJson?_toJson h⟩

theorem jsonText_toIndentedJson {d : Data} (h : d.Writable) : JsonText d.toIndentedJson d :=
  ⟨Json.denotes_toIndentedJson h, Data.ofJson?_toIndentedJson h⟩

/-! ### Responses -/

/-- Two responses that are the same: their amounts are equal, with the same digits and the same
scale, and so is everything else. -/
structure Response.Same (r s : Response) : Prop where
  amount : s.amount.compare r.amount = .eq
  magnitude : s.amount.magnitude = r.amount.magnitude
  scale : s.amount.scale = r.amount.scale
  others : { s with amount := r.amount } = r

theorem Response.same_dropZeroSign (r : Response) :
    r.Same { r with amount := r.amount.dropZeroSign } where
  amount := by
    rw [Decimal.compare_eq, Decimal.value_dropZeroSign, compare_eq_iff_eq]
  magnitude := rfl
  scale := rfl
  others := rfl

/-- A text is JSON and holds a response: the response that is read from it is the same, and
identical unless its amount is a zero with a sign. -/
structure Response.HeldBy (r : Response) (text : String) : Prop where
  json : JsonText text r.toData
  same : ∃ s, responseIn? text = some s ∧ r.Same s
  identical : responseIn? text = some r ↔ r.amount.Signed

theorem Response.heldBy_of_jsonText {r : Response} {text : String} (h : JsonText text r.toData) :
    r.HeldBy text := by
  have hread : responseIn? text = some { r with amount := r.amount.dropZeroSign } := by
    unfold responseIn?
    rw [h.read]
    exact r.ofData?_own_data
  refine ⟨h, ⟨_, hread, r.same_dropZeroSign⟩, ?_⟩
  rw [hread, Option.some_inj, ← r.amount.dropZeroSign_eq_self_iff]
  exact ⟨fun heq => congrArg Response.amount heq, fun heq => by rw [heq]⟩

theorem Response.heldBy_toJson (r : Response) : r.HeldBy r.toData.toJson :=
  heldBy_of_jsonText (jsonText_toJson r.writable_toData)

theorem Response.heldBy_toIndentedJson (r : Response) : r.HeldBy r.toData.toIndentedJson :=
  heldBy_of_jsonText (jsonText_toIndentedJson r.writable_toData)

/-! ### Failures -/

/-- A text is JSON and tells of a command that failed: it says which one, that this was an error,
of which class, and the message, and it holds nothing else. -/
def TellsFailure (command className message text : String) : Prop :=
  JsonText text (.record [("command", .text command), ("status", .text "error"),
    ("error_class", .text className), ("message", .text message)])

theorem tellsFailure_report (command className message : String) :
    TellsFailure command className message
      (CommandFailure.report command className message).toJson :=
  jsonText_toJson ⟨⟨trivial, trivial, trivial, trivial, trivial⟩, rfl⟩

theorem tellsFailure_answer (command : String) (f : CommandFailure) :
    TellsFailure command f.className f.message (f.answer command).output :=
  tellsFailure_report command f.className f.message

/-- What commands print in JSON: the response to an invoice if it is asked for as a document, and
the report of whatever went wrong. -/
structure Printed (w : World) (i : Command.Invoice) : Prop where
  response : ∀ settings response sent, Command.runInvoice w i = .ok (settings, response, sent) →
    response.HeldBy (Command.execute w i true).output
  refused : ∀ f, Command.runInvoice w i = .error f → ∀ json,
    TellsFailure "execute" f.className f.message (Command.execute w i json).output
  unlisted : ∀ f, Reference.load w = .error f →
    TellsFailure "rules" f.className f.message (Command.rules w).output

theorem printed (w : World) (i : Command.Invoice) : Printed w i where
  response settings response sent h := by
    unfold Command.execute
    rw [h]
    simp only [if_true, response.toIndentedJson?_eq_ok]
    exact response.heldBy_toIndentedJson
  refused f h json := by
    unfold Command.execute
    rw [h]
    exact tellsFailure_answer "execute" f
  unlisted f h := by
    unfold Command.rules
    rw [h]
    exact tellsFailure_answer "rules" f

/--
**Whatever an answer says is found in it.**

A response is held by both of its texts, whatever stands in it: by the one on a single line,
which the service sends, and by the one over several lines, which the command prints.  And
however a failure is worded, the text that a command prints for it tells just that.
-/
theorem answers_read_back (r : Response) (o : Outcome) (command className message : String)
    (w : World) (i : Command.Invoice) :
    r.HeldBy r.toData.toJson ∧ r.HeldBy r.toData.toIndentedJson ∧
      (Response.ofOutcome o).HeldBy (Server.answerTo (.ok o)).body ∧
      TellsFailure command className message
        (CommandFailure.report command className message).toJson ∧
      Printed w i :=
  ⟨r.heldBy_toJson, r.heldBy_toIndentedJson, (Response.ofOutcome o).heldBy_toJson,
    tellsFailure_report command className message, printed w i⟩

end InvoiceApproval
