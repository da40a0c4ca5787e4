/-
Responses on their way to a caller.

A response is written field by field under fixed names, and it is read by the same names,
so each field comes back by itself.  What a response says can always be written in JSON,
since texts are escaped and an amount is a number; and it is read back from either layout
(`ofJson?_toJson`, `ofJson?_toIndentedJson`).  Only an amount of zero that is written with a
minus sign is read without it.
-/
import InvoiceApproval.Proofs.Decimal.Written
import InvoiceApproval.Proofs.Json.RoundTrip
import InvoiceApproval.Response

namespace InvoiceApproval

open Data (Row Strictness)

/-! ### What can be written -/

namespace Data

theorem itemsWritable_iff {items : List Data} :
    ItemsWritable items ↔ ∀ d ∈ items, d.Writable := by
  induction items with
  | nil => simp [ItemsWritable]
  | cons d ds ih => simp [ItemsWritable, ih]

theorem writable_texts (items : List String) : (texts items).Writable := by
  show ItemsWritable (items.map .text)
  rw [itemsWritable_iff]
  intro d hd
  obtain ⟨s, -, rfl⟩ := List.mem_map.1 hd
  trivial

theorem writable_textOrNull (s : Option String) : (textOrNull s).Writable := by
  cases s <;> trivial

theorem writable_amount (d : Decimal) : (Data.number d.toText).Writable := by
  show Scan.scanNumber d.toText.toList = _
  rw [Decimal.toText, String.toList_ofList]
  exact d.scanNumber_chars

end Data

namespace Response

theorem writable_approver (a : Approver) : (approverToData a).Writable :=
  ⟨⟨trivial, trivial, trivial, Data.writable_textOrNull _, trivial, trivial⟩, rfl⟩

/-- **Whatever a response says can be written.** -/
theorem writable_toData (r : Response) : r.toData.Writable := by
  have hselected : (Data.list (r.selected.map approverToData)).Writable := by
    show Data.ItemsWritable _
    rw [Data.itemsWritable_iff]
    intro d hd
    obtain ⟨a, -, rfl⟩ := List.mem_map.1 hd
    exact writable_approver a
  exact ⟨⟨trivial, Data.writable_amount _, trivial, trivial, hselected, Data.writable_texts _,
    Data.writable_texts _, trivial, trivial⟩, rfl⟩

/-- The text of an amount makes a number, so the check before writing always passes. -/
theorem toIndentedJson?_eq_ok (r : Response) : r.toIndentedJson? = .ok r.toData.toIndentedJson := by
  have hscan : Scan.scanNumber r.amount.toText.toList = some (r.amount.toText.toList, []) :=
    Data.writable_amount r.amount
  have hnumber : Scan.isNumber r.amount.toText = true := by
    rw [Scan.isNumber, hscan]
    rfl
  rw [toIndentedJson?, if_pos hnumber]

/-! ### What is read back -/

theorem mapM_map_of_eq_some {α β : Type} {f : β → Option α} {g : α → β} (h : ∀ x, f (g x) = some x)
    (xs : List α) : (xs.map g).mapM f = some xs := by
  induction xs with
  | nil => rfl
  | cons x xs ih =>
      rw [List.map_cons, List.mapM_cons, h, ih]
      rfl

theorem texts?_texts (items : List String) : (Data.texts items).texts? = some items := by
  exact mapM_map_of_eq_some (f := Data.text?) (g := Data.text) (fun _ => rfl) items

theorem approverOfData?_approverToData (a : Approver) :
    approverOfData? (approverToData a) = some a := by
  obtain ⟨id, name, email, department, isManager⟩ := a
  cases department with
  | none => rfl
  | some d => cases d <;> rfl

/-- The fields that a response is written with. -/
def fields (r : Response) : List (String × Data) :=
  [("success", .bool r.success), ("amount", .number r.amount.toText),
    ("department", .text r.department.name),
    ("requiresManagerApproval", .bool r.requiresManagerApproval),
    ("selectedApprovers", .list (r.selected.map approverToData)),
    ("notificationsSent", Data.texts r.confirmations),
    ("rulesApplied", Data.texts r.rulesApplied), ("message", .text r.message)]

/-- **A response is read back from its document, but for the sign of a zero.** -/
theorem ofData?_own_data (r : Response) :
    ofData? r.toData = some { r with amount := r.amount.dropZeroSign } := by
  have hrow : Row.of? .message fieldNames r.toData = some (.named r.fields) := rfl
  have hsuccess : (Row.named r.fields).required 0 "success" Data.bool? = some r.success := rfl
  have hamount : (Row.named r.fields).required 1 "amount" Decimal.ofData?
      = some r.amount.dropZeroSign := r.amount.readLiteral_own_text
  have hdepartment : (Row.named r.fields).required 2 "department"
      (Department.ofData? Strictness.message.isNothing) = some r.department :=
    Department.ofName?_name r.department
  have hflag : (Row.named r.fields).required 3 "requiresManagerApproval" Data.bool?
      = some r.requiresManagerApproval := rfl
  have hselected : (Row.named r.fields).required 4 "selectedApprovers"
      (fun d => d.list?.bind (·.mapM approverOfData?)) = some r.selected :=
    mapM_map_of_eq_some approverOfData?_approverToData r.selected
  have hconfirmations : (Row.named r.fields).required 5 "notificationsSent" Data.texts?
      = some r.confirmations := texts?_texts r.confirmations
  have hrules : (Row.named r.fields).required 6 "rulesApplied" Data.texts?
      = some r.rulesApplied := texts?_texts r.rulesApplied
  have hmessage : (Row.named r.fields).required 7 "message" Data.text? = some r.message := rfl
  simp only [ofData?, hrow, bind, Option.bind_some, hsuccess, hamount, hdepartment, hflag,
    hselected, hconfirmations, hrules, hmessage]
  rfl

theorem ofData?_toData {r : Response} (h : r.amount.Signed) : ofData? r.toData = some r := by
  rw [ofData?_own_data, r.amount.dropZeroSign_eq_self_iff.2 h]

end Response

end InvoiceApproval
