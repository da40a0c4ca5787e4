/-
Bodies that hold a request.

There are many ways to write a request into a body: blanks may stand between any two
marks, characters of a text may be escaped or not, the amount may be a number or a text,
and the three values may stand in any order.  None of that matters.  A body whose document
is a record of the three values is read as those values (`read_of_fields`), and the amount
among them is what the reader of literals makes of its spelling.

Nor does it matter that a body arrives in bytes, as long as they are those of a text: both
scans of them are the scan of the text, so they agree on everything (`readBytes_encode`).
-/
import InvoiceApproval.Proofs.Json.RoundTrip
import InvoiceApproval.Proofs.Text.Utf8
import InvoiceApproval.Request.Body

namespace InvoiceApproval

namespace Scan

/-! ### A text in bytes -/

mutual

/-- A scan agrees with itself on everything. -/
theorem agreed_self : ∀ v : Scan, v.agreed v = v
  | .null | .bool _ | .number _ | .cut => rfl
  | .text s => by rw [agreed, if_pos rfl]
  | .list items => by rw [agreed, agreedItems_self items]
  | .record fields => by rw [agreed, agreedFields_self fields]

theorem agreedItems_self : ∀ vs : List Scan, agreedItems vs vs = vs
  | [] => rfl
  | v :: vs => by rw [agreedItems, agreed_self v, agreedItems_self vs]

theorem agreedFields_self :
    ∀ fields : List (Option String × Scan), agreedFields fields fields = fields
  | [] => rfl
  | (name, v) :: fields => by rw [agreedFields, if_pos rfl, agreed_self v, agreedFields_self fields]

end

/-- **The bytes of a text are scanned as the text.** -/
theorem ofBytes_encode (s : String) : ofBytes (Text.encode s) = ofChars s.toList := by
  unfold ofBytes
  simp only [Text.decode_encode, agreed_self]

/-! ### What a document has been scanned from -/

/-- Fields make a record, or the number that they wrap. -/
theorem unwrap_cases (fields : List (String × Data)) :
    unwrap fields = .record fields ∨ ∃ literal, unwrap fields = .number literal := by
  unfold unwrap
  split
  · split
    · exact Or.inr ⟨_, rfl⟩
    · exact Or.inl rfl
  · exact Or.inl rfl

theorem eq_of_data?_record {scanned : List (Option String × Scan)} {d : Data}
    (h : (Scan.record scanned).data? = some d) :
    (∃ fields, d = .record fields ∧ dataFields? scanned = some fields) ∨
      ∃ literal, d = .number literal := by
  obtain ⟨fields, hfields, hd⟩ := Option.map_eq_some_iff.1 h
  rcases unwrap_cases fields with hrecord | ⟨literal, hnumber⟩
  · exact Or.inl ⟨fields, by rw [← hd, hrecord], hfields⟩
  · exact Or.inr ⟨literal, by rw [← hd, hnumber]⟩

theorem eq_of_data?_list {items : List Scan} {d : Data} (h : (Scan.list items).data? = some d) :
    ∃ ds, d = .list ds := by
  obtain ⟨ds, -, hd⟩ := Option.map_eq_some_iff.1 h
  exact ⟨ds, hd.symm⟩

theorem eq_text_of_data? {v : Scan} {s : String} (h : v.data? = some (.text s)) :
    v = .text (some s) := by
  cases v with
  | text value =>
      cases value with
      | none => exact nomatch h
      | some value =>
          cases h
          rfl
  | record scanned =>
      rcases eq_of_data?_record h with ⟨fields, hd, -⟩ | ⟨literal, hd⟩
      · exact nomatch hd
      · exact nomatch hd
  | list items =>
      obtain ⟨ds, hd⟩ := eq_of_data?_list h
      exact nomatch hd
  | null | bool | number | cut => exact nomatch h

theorem eq_bool_of_data? {v : Scan} {b : Bool} (h : v.data? = some (.bool b)) : v = .bool b := by
  cases v with
  | bool value =>
      cases h
      rfl
  | text value => cases value <;> exact nomatch h
  | record scanned =>
      rcases eq_of_data?_record h with ⟨fields, hd, -⟩ | ⟨literal, hd⟩
      · exact nomatch hd
      · exact nomatch hd
  | list items =>
      obtain ⟨ds, hd⟩ := eq_of_data?_list h
      exact nomatch hd
  | null | number | cut => exact nomatch h

theorem eq_record_of_data? {v : Scan} {fields : List (String × Data)}
    (h : v.data? = some (.record fields)) :
    ∃ scanned, v = .record scanned ∧ dataFields? scanned = some fields := by
  cases v with
  | record scanned =>
      rcases eq_of_data?_record h with ⟨fields', hd, hfields⟩ | ⟨literal, hd⟩
      · cases hd
        exact ⟨scanned, rfl, hfields⟩
      · exact nomatch hd
  | text value => cases value <;> exact nomatch h
  | list items =>
      obtain ⟨ds, hd⟩ := eq_of_data?_list h
      exact nomatch hd
  | null | bool | number | cut => exact nomatch h

theorem eq_nil_of_dataFields? {scanned : List (Option String × Scan)}
    (h : dataFields? scanned = some []) : scanned = [] := by
  cases scanned with
  | nil => rfl
  | cons f rest =>
      obtain ⟨name, -, h⟩ := Option.bind_eq_some_iff.1 h
      obtain ⟨d, -, h⟩ := Option.bind_eq_some_iff.1 h
      obtain ⟨fields, -, h⟩ := Option.bind_eq_some_iff.1 h
      exact nomatch h

theorem eq_cons_of_dataFields? {scanned : List (Option String × Scan)} {k : String} {d : Data}
    {fields : List (String × Data)} (h : dataFields? scanned = some ((k, d) :: fields)) :
    ∃ v rest, scanned = (some k, v) :: rest ∧ v.data? = some d ∧
      dataFields? rest = some fields := by
  cases scanned with
  | nil => exact nomatch h
  | cons f rest =>
      obtain ⟨name, v⟩ := f
      obtain ⟨k', hname, h⟩ := Option.bind_eq_some_iff.1 h
      obtain ⟨d', hd, h⟩ := Option.bind_eq_some_iff.1 h
      obtain ⟨fields', hfields, h⟩ := Option.bind_eq_some_iff.1 h
      cases h
      exact ⟨v, rest, by rw [hname], hd, hfields⟩

/-- A number is written as such, or wrapped in a record. -/
theorem eq_number_of_data? {v : Scan} {literal : String} (h : v.data? = some (.number literal)) :
    v = .number literal ∨ v = .record [(some Data.numberField, .text (some literal))] := by
  cases v with
  | number spelling =>
      cases h
      exact Or.inl rfl
  | record scanned =>
      obtain ⟨fields, hfields, hd⟩ := Option.map_eq_some_iff.1 h
      unfold unwrap at hd
      split at hd
      · split at hd
        · rename_i hname
          cases hd
          obtain ⟨v, rest, rfl, hv, hrest⟩ := eq_cons_of_dataFields? hfields
          obtain rfl := eq_nil_of_dataFields? hrest
          obtain rfl := eq_text_of_data? hv
          rw [hname.1]
          exact Or.inr rfl
        · exact nomatch hd
      · exact nomatch hd
  | text value => cases value <;> exact nomatch h
  | list items =>
      obtain ⟨ds, hd⟩ := eq_of_data?_list h
      exact nomatch hd
  | null | bool | cut => exact nomatch h

end Scan

namespace RequestBody

/-! ### Bodies in bytes -/

/-- **A text that arrives in bytes is read as the text.** -/
theorem readBytes_encode (s : String) : readBytes (Text.encode s) = read s := by
  rw [readBytes, Scan.ofBytes_encode, read]

-- bytes that are no character spoil the text that they stand in, where anyone reads it
example : readBytes
    (Text.encode "[1,\"" ++ 0xFF :: Text.encode "SALES\",true]") = .error .notJson := by
  decide +kernel

example : readBytes
    (Text.encode "\x7b\"note\":\"" ++ 0xFF :: Text.encode ("\",\"amount\":1," ++
      "\"department\":\"SALES\",\"requiresManagerApproval\":true\x7d"))
    = .ok ⟨.ofNat 1, "SALES", true⟩ := by
  decide +kernel

/-! ### Fields that hold the values of a body -/

/-- A field of a document that holds the value of a body.  An amount may be written as a number
or as a text. -/
inductive Holds (b : RequestBody) : String → Data → Prop
  | amount {literal : String} (h : Decimal.readLiteral literal = some b.amount) :
    Holds b "amount" (.number literal)
  | amountText {literal : String} (h : Decimal.readLiteral literal = some b.amount) :
    Holds b "amount" (.text literal)
  | department : Holds b "department" (.text b.department)
  | requiresManagerApproval :
    Holds b "requiresManagerApproval" (.bool b.requiresManagerApproval)

/-- What has been met of a body once the fields of these names have been. -/
def partsMet (b : RequestBody) (names : List String) : Parts where
  amount := if "amount" ∈ names then some b.amount else none
  department := if "department" ∈ names then some b.department else none
  requiresManagerApproval :=
    if "requiresManagerApproval" ∈ names then some b.requiresManagerApproval else none

variable {b : RequestBody}

theorem amountOf_of_data? {v : Scan} {literal : String} (h : v.data? = some (.number literal)) :
    amountOf v = fit (Decimal.readLiteral literal) := by
  rcases Scan.eq_number_of_data? h with rfl | rfl
  · rfl
  · have hwrapped : wrappedAmountOf (.text (some literal)) []
        = fit (Decimal.readLiteral literal) := by
      show (fit (Decimal.readLiteral literal) >>= pure) = _
      cases Decimal.readLiteral literal <;> rfl
    show (if Data.numberField = Data.numberField then wrappedAmountOf (.text (some literal)) []
      else .error .misfit) = _
    rw [if_pos rfl, hwrapped]

/-- One more field is met, if it has not been before. -/
theorem takeField_holds {name : String} {d : Data} (hd : Holds b name d) {v : Scan}
    (hv : v.data? = some d) {names : List String} (hname : name ∉ names) :
    takeField (b.partsMet names) (some name, v) = .ok (b.partsMet (name :: names)) := by
  cases hd with
  | amount h =>
      have hamount : amountOf v = .ok b.amount := by rw [amountOf_of_data? hv, h, fit]
      simp [takeField, partsMet, hname, once, hamount, Except.map, bind, Except.bind, pure,
        Except.pure]
  | amountText h =>
      obtain rfl := Scan.eq_text_of_data? hv
      simp [takeField, partsMet, hname, once, amountOf, h, fit, Except.map, bind, Except.bind, pure,
        Except.pure]
  | department =>
      obtain rfl := Scan.eq_text_of_data? hv
      simp [takeField, partsMet, hname, once, departmentOf, Except.map, bind, Except.bind, pure,
        Except.pure]
  | requiresManagerApproval =>
      obtain rfl := Scan.eq_bool_of_data? hv
      simp [takeField, partsMet, hname, once, flagOf, Except.map, bind, Except.bind, pure,
        Except.pure]

/-- Fields of different names are met one after the other. -/
theorem foldlM_takeField_holds {fields : List (String × Data)}
    (hfields : ∀ f ∈ fields, Holds b f.1 f.2) {scanned : List (Option String × Scan)}
    (hscanned : Scan.dataFields? scanned = some fields) {names : List String}
    (hdistinct : (fields.map Prod.fst ++ names).Nodup) :
    scanned.foldlM takeField (b.partsMet names)
      = .ok (b.partsMet ((fields.map Prod.fst).reverse ++ names)) := by
  induction fields generalizing scanned names with
  | nil =>
      obtain rfl := Scan.eq_nil_of_dataFields? hscanned
      rfl
  | cons field fields ih =>
      obtain ⟨name, d⟩ := field
      obtain ⟨v, rest, rfl, hv, hrest⟩ := Scan.eq_cons_of_dataFields? hscanned
      obtain ⟨hnew, hothers⟩ := List.nodup_cons.1 hdistinct
      have hnext : (fields.map Prod.fst ++ name :: names).Nodup :=
        (List.perm_middle.nodup_iff).2 (List.nodup_cons.2 ⟨hnew, hothers⟩)
      have hname : name ∉ names := fun h => hnew (List.mem_append_right _ h)
      rw [List.foldlM_cons, takeField_holds (hfields _ List.mem_cons_self) hv hname]
      show rest.foldlM takeField (b.partsMet (name :: names)) = _
      rw [ih (fun f hf => hfields f (List.mem_cons_of_mem _ hf)) hrest hnext]
      simp

/-- The names of the fields of a body. -/
def fieldNames : List String := ["amount", "department", "requiresManagerApproval"]

/-- **A body that holds the three values is read as them, in whatever order they stand.** -/
theorem read_of_fields {body : String} {fields : List (String × Data)}
    (hbody : Data.ofJson? body = some (.record fields))
    (hnames : (fields.map Prod.fst).Perm fieldNames) (hfields : ∀ f ∈ fields, Holds b f.1 f.2) :
    read body = .ok b := by
  unfold Data.ofJson? at hbody
  unfold read ofWhole
  cases hscan : Scan.ofChars body.toList with
  | mk v ended =>
      rw [hscan] at hbody
      cases ended with
      | false => exact nomatch hbody
      | true =>
          obtain ⟨scanned, rfl, hscanned⟩ := Scan.eq_record_of_data? hbody
          have hdistinct : (fields.map Prod.fst ++ []).Nodup := by
            rw [List.append_nil]
            exact hnames.nodup_iff.2 (by decide)
          have hmet := foldlM_takeField_holds hfields hscanned hdistinct
          have hmem : ∀ name ∈ fieldNames, name ∈ (fields.map Prod.fst).reverse ++ [] := by
            intro name h
            rw [List.append_nil, List.mem_reverse]
            exact hnames.mem_iff.2 h
          have hall : b.partsMet ((fields.map Prod.fst).reverse ++ [])
              = ⟨some b.amount, some b.department, some b.requiresManagerApproval⟩ := by
            simp only [partsMet, if_pos (hmem _ (by decide : "amount" ∈ fieldNames)),
              if_pos (hmem _ (by decide : "department" ∈ fieldNames)),
              if_pos (hmem _ (by decide : "requiresManagerApproval" ∈ fieldNames))]
          have hread : ofFields scanned = .ok b := by
            unfold ofFields
            rw [show (⟨none, none, none⟩ : Parts) = b.partsMet [] from rfl, hmet, hall]
            rfl
          show (ofFields scanned >>= fun body => if true then pure body else throw .notJson) = _
          rw [hread]
          rfl

/-! ### One order -/

/-- A request as a document, with the amount as a text. -/
def document (amount department : String) (requiresManagerApproval : Bool) : Data :=
  .record [("amount", .text amount), ("department", .text department),
    ("requiresManagerApproval", .bool requiresManagerApproval)]

theorem writable_document (amount department : String) (flag : Bool) :
    (document amount department flag).Writable :=
  ⟨⟨trivial, trivial, trivial, trivial⟩, rfl⟩

theorem read_of_document {body amount department : String} {flag : Bool} {d : Decimal}
    (hbody : Data.ofJson? body = some (document amount department flag))
    (hamount : Decimal.readLiteral amount = some d) : read body = .ok ⟨d, department, flag⟩ := by
  have hfields : ∀ f ∈ [("amount", Data.text amount), ("department", .text department),
      ("requiresManagerApproval", .bool flag)], Holds ⟨d, department, flag⟩ f.1 f.2 := by
    simp only [List.forall_mem_cons, List.not_mem_nil, false_implies, implies_true, and_true]
    exact ⟨.amountText hamount, .department, .requiresManagerApproval⟩
  exact read_of_fields hbody (List.Perm.refl _) hfields

end RequestBody

end InvoiceApproval
