/-
The amount in a body.

The body of a message is taken in field by field, and its amount may be a number, a text
or a record that wraps a number.  Whichever it is, there is one spelling, and the amount
is what the reader of literals makes of it (`amount_of_read`).  So the question whether
a body is routed on the number that its author wrote is the question whether that reader
is exact, and the answer is the same: exactly if the number and what stands in front of
its exponent can be held.

Nothing refuses the other bodies.  A number above a threshold whose digits do not fit is
routed as the threshold.
-/
import InvoiceApproval.Proofs.Decimal.Exactness
import InvoiceApproval.Request.Body

namespace InvoiceApproval

namespace Scan

/-- The spelling of a number: of a number as such, of one in quotes, and of one that is
wrapped in a record. -/
def spelling? : Scan → Option String
  | .number literal => some literal
  | .text s => s
  | .record [(some name, .text s)] => if name = Data.numberField then s else none
  | _ => none

/-- What stands in a body for the amount: the field of that name, or the first item. -/
def amount? : Scan → Option Scan
  | .record fields => fields.lookup (some "amount")
  | .list items => items.head?
  | _ => none

end Scan

namespace RequestBody

/-! ### Where the amount comes from -/

theorem bind_eq_ok_iff {ε α β : Type} {x : Except ε α} {f : α → Except ε β} {b : β} :
    (x >>= f) = .ok b ↔ ∃ a, x = .ok a ∧ f a = .ok b := by
  cases x with
  | error e => simp [bind, Except.bind]
  | ok a => simp [bind, Except.bind]

theorem fit_eq_ok_iff {α : Type} {read : Option α} {a : α} : fit read = .ok a ↔ read = some a := by
  cases read <;> simp [fit]

theorem once_eq_ok_iff {α : Type} {met result : Option α} {value : Except BodyFault α} :
    once met value = .ok result ↔ met = none ∧ ∃ a, value = .ok a ∧ result = some a := by
  cases met <;> cases value <;> simp [once, Except.map, eq_comm]

theorem spelling_of_wrapped {v : Scan} {rest : List (Option String × Scan)} {a : Decimal}
    (h : wrappedAmountOf v rest = .ok a) :
    ∃ s, v = .text (some s) ∧ rest = [] ∧ Decimal.readLiteral s = some a := by
  unfold wrappedAmountOf at h
  split at h
  · obtain ⟨b, hb, h⟩ := bind_eq_ok_iff.1 h
    split at h
    · rename_i hrest
      cases h
      exact ⟨_, rfl, List.isEmpty_iff.1 hrest, fit_eq_ok_iff.1 hb⟩
    · exact nomatch h
  all_goals exact nomatch h

/-- An amount is what its spelling is read as. -/
theorem spelling_of_amountOf {v : Scan} {a : Decimal} (h : amountOf v = .ok a) :
    ∃ s, v.spelling? = some s ∧ Decimal.readLiteral s = some a := by
  unfold amountOf at h
  split at h
  · exact ⟨_, rfl, fit_eq_ok_iff.1 h⟩
  · exact ⟨_, rfl, fit_eq_ok_iff.1 h⟩
  · split at h
    · rename_i hname
      obtain ⟨s, rfl, rfl, hs⟩ := spelling_of_wrapped h
      exact ⟨s, by simp [Scan.spelling?, hname], hs⟩
    · exact nomatch h
  all_goals exact nomatch h

/-- One more field is the amount, which has not been met before, or leaves it as it is. -/
theorem takeField_amount {p q : Parts} {name : Option String} {v : Scan}
    (h : takeField p (name, v) = .ok q) :
    (name ≠ some "amount" ∧ q.amount = p.amount) ∨
      (name = some "amount" ∧ p.amount = none ∧ ∃ a, amountOf v = .ok a ∧ q.amount = some a) := by
  unfold takeField at h
  split at h
  · exact nomatch h
  · rename_i hpair
    cases hpair
    split at h
    · obtain ⟨amount, hamount, h⟩ := bind_eq_ok_iff.1 h
      cases h
      exact Or.inr ⟨rfl, once_eq_ok_iff.1 hamount⟩
    · obtain ⟨department, -, h⟩ := bind_eq_ok_iff.1 h
      cases h
      exact Or.inl ⟨by decide, rfl⟩
    · obtain ⟨flag, -, h⟩ := bind_eq_ok_iff.1 h
      cases h
      exact Or.inl ⟨by decide, rfl⟩
    · rename_i hname _ _
      split at h
      · exact nomatch h
      · cases h
        exact Or.inl ⟨fun heq => hname (Option.some.inj heq), rfl⟩

/-- Once the amount has been met it stays, and it is the first field of its name. -/
theorem foldlM_takeField_amount {fields : List (Option String × Scan)} {p q : Parts}
    (h : fields.foldlM takeField p = .ok q) :
    (q.amount = p.amount ∧ fields.lookup (some "amount") = none) ∨
      (p.amount = none ∧ ∃ v a, fields.lookup (some "amount") = some v ∧
        amountOf v = .ok a ∧ q.amount = some a) := by
  induction fields generalizing p with
  | nil =>
      cases h
      exact Or.inl ⟨rfl, rfl⟩
  | cons field fields ih =>
      obtain ⟨name, v⟩ := field
      rw [List.foldlM_cons] at h
      obtain ⟨mid, hmid, hrest⟩ := bind_eq_ok_iff.1 h
      rcases takeField_amount hmid with ⟨hname, hsame⟩ | ⟨rfl, hnone, a, ha, hmet⟩
      · have hlookup : ((name, v) :: fields).lookup (some "amount")
            = fields.lookup (some "amount") := by
          rw [List.lookup_cons, beq_eq_false_iff_ne.2 (Ne.symm hname)]
        rw [hlookup, ← hsame]
        exact ih hrest
      · have hlookup : ((some "amount", v) :: fields).lookup (some "amount") = some v := by
          rw [List.lookup_cons, beq_self_eq_true]
        rw [hlookup]
        refine Or.inr ⟨hnone, v, a, rfl, ha, ?_⟩
        rcases ih hrest with ⟨hsame, -⟩ | ⟨hnone', -⟩
        · rw [hsame, hmet]
        · rw [hmet] at hnone'
          exact nomatch hnone'

theorem takeItem_cons_eq_ok_iff {α : Type} {read : Scan → Except BodyFault α} {v : Scan}
    {vs rest : List Scan} {a : α} :
    takeItem read (v :: vs) = .ok (a, rest) ↔ read v = .ok a ∧ vs = rest := by
  cases h : read v <;> simp [takeItem, h, Except.map]

/-- The amount of a body is what stands there for it, as it is spelt. -/
theorem amount_of_ofScan {v : Scan} {b : RequestBody} (h : ofScan v = .ok b) :
    ∃ a s, v.amount? = some a ∧ a.spelling? = some s ∧ Decimal.readLiteral s = some b.amount := by
  unfold ofScan at h
  split at h
  · obtain ⟨parts, hparts, h⟩ := bind_eq_ok_iff.1 h
    unfold complete at h
    split at h
    · cases h
      rcases foldlM_takeField_amount hparts with ⟨hsame, -⟩ | ⟨-, v, a, hv, ha, hmet⟩
      · exact nomatch hsame
      · cases hmet
        obtain ⟨s, hs, hread⟩ := spelling_of_amountOf ha
        exact ⟨v, s, hv, hs, hread⟩
    · exact nomatch h
  · rename_i items
    cases items with
    | nil => exact nomatch h
    | cons v items =>
        obtain ⟨⟨a, rest⟩, hfirst, h⟩ := bind_eq_ok_iff.1 h
        obtain ⟨⟨department, rest⟩, -, h⟩ := bind_eq_ok_iff.1 h
        obtain ⟨⟨flag, rest⟩, -, h⟩ := bind_eq_ok_iff.1 h
        dsimp only at h
        split at h
        · cases h
          obtain ⟨s, hs, hread⟩ := spelling_of_amountOf (takeItem_cons_eq_ok_iff.1 hfirst).1
          exact ⟨v, s, rfl, hs, hread⟩
        · exact nomatch h
  all_goals exact nomatch h

/-- How a body spells its amount, if all of it is JSON. -/
def amountSpelling? (body : String) : Option String :=
  match Scan.ofChars body.toList with
  | (v, true) => v.amount?.bind Scan.spelling?
  | (_, false) => none

/-- What a body that is read spells for its amount, and what that is read as. -/
theorem amount_of_read {body : String} {b : RequestBody} (h : read body = .ok b) :
    ∃ s, amountSpelling? body = some s ∧ Decimal.readLiteral s = some b.amount := by
  unfold read at h
  cases hscan : Scan.ofChars body.toList with
  | mk v ended =>
      rw [hscan] at h
      obtain ⟨parts, hparts, h⟩ := bind_eq_ok_iff.1 h
      cases ended with
      | false => exact nomatch h
      | true =>
          cases h
          obtain ⟨a, s, ha, hs, hliteral⟩ := amount_of_ofScan hparts
          refine ⟨s, ?_, hliteral⟩
          simp only [amountSpelling?, hscan, ha, Option.bind_some, hs]

theorem amount_of_request {b : RequestBody} {r : ApprovalRequest} (h : b.request = .ok r) :
    r.amount = b.amount := by
  obtain ⟨department, -, h⟩ := bind_eq_ok_iff.1 h
  unfold ApprovalRequest.make at h
  split at h
  · cases h
    rfl
  · exact nomatch h

/-! ### Whether it is the number that is written -/

/-- **Amounts in documents.**  A body that makes a request spells its amount, and the
spelling is a number in writing.  The request is made for the number that is written
exactly if that number and the one in front of its exponent can be held, and in that
case every condition on the amount is decided on the number that is written. -/
theorem written_amount_exact {body : String} {b : RequestBody} {r : ApprovalRequest}
    (hread : read body = .ok b) (hrequest : b.request = .ok r) :
    ∃ s, amountSpelling? body = some s ∧ (∃ w : Writing, w.chars = s.toList) ∧
      ∀ w : Writing, w.chars = s.toList →
        (r.amount.value = w.value ↔ w.FrontHeld ∧ Held w.value) ∧
          (w.FrontHeld ∧ Held w.value → ∀ (comparison : Comparison) (threshold : Decimal),
            (Condition.amount comparison threshold).holds r
              = comparison.holds (Ord.compare w.value threshold.value)) := by
  obtain ⟨s, hs, hliteral⟩ := amount_of_read hread
  rw [amount_of_request hrequest]
  refine ⟨s, hs, Decimal.exists_writing_of_readLiteral hliteral, ?_⟩
  intro w hw
  have hiff := Decimal.readLiteral_value_iff hw hliteral
  refine ⟨hiff, ?_⟩
  intro hheld comparison threshold
  show comparison.holds (r.amount.compare threshold) = _
  rw [amount_of_request hrequest, Decimal.compare_eq, hiff.2 hheld]

/-- A body whose amount has as many digits as can be held, written with an exponent. -/
def fullPrecision : String :=
  "\x7b\"amount\":\"7922816251426433759354.3950335e3\",\"department\":\"SALES\","
    ++ "\"requiresManagerApproval\":true\x7d"

/-- What is read there for the amount. -/
def widest : Decimal := ⟨false, 79228162514264337593543950335, 4, by decide, by decide⟩

theorem written_amount_exact_widest :
    read fullPrecision = .ok ⟨widest, "SALES", true⟩ ∧
      request ⟨widest, "SALES", true⟩ = .ok ⟨widest, .sales, true, rfl⟩ ∧
      ∃ s, amountSpelling? fullPrecision = some s ∧ (∃ w : Writing, w.chars = s.toList) ∧
        ∀ w : Writing, w.chars = s.toList →
          (widest.value = w.value ↔ w.FrontHeld ∧ Held w.value) := by
  have hread : read fullPrecision = .ok ⟨widest, "SALES", true⟩ := by decide +kernel
  have hrequest : request ⟨widest, "SALES", true⟩ = .ok ⟨widest, .sales, true, rfl⟩ := by decide
  obtain ⟨s, hspells, hwriting, hexact⟩ := written_amount_exact hread hrequest
  exact ⟨hread, hrequest, s, hspells, hwriting, fun w hw => (hexact w hw).1⟩

/-- A body that asks for just more than a thousand, with more digits than can be held. -/
def pastThousand : String :=
  "\x7b\"amount\":1000.00000000000000000000000004,\"department\":\"SALES\",\"requiresManagerApproval\":true\x7d"

theorem marks_pastThousand :
    ∀ c ∈ "1000".toList ++ "00000000000000000000000004".toList, c.isDigit = true ∨ c = '_' :=
  marks_of_all rfl

theorem begins_pastThousand :
    ∃ c rest, "1000".toList ++ "00000000000000000000000004".toList = c :: rest ∧
      c.isDigit = true :=
  ⟨'1', _, rfl, rfl⟩

/-- What it asks for. -/
def pastThousandAmount : Writing :=
  .plain ⟨.absent, "1000".toList, some "00000000000000000000000004".toList, marks_pastThousand,
    begins_pastThousand⟩

/-- What is read there: a thousand with as many zeros as can be held. -/
def flatThousand : Decimal := ⟨false, 10000000000000000000000000000, 25, by decide, by decide⟩

/-- A number above a threshold that cannot be held is routed as the threshold. -/
theorem written_amount_rounded :
    amountSpelling? pastThousand = some "1000.00000000000000000000000004" ∧
      pastThousandAmount.chars = "1000.00000000000000000000000004".toList ∧
      1000 < pastThousandAmount.value ∧ ¬ Held pastThousandAmount.value ∧
      read pastThousand = .ok ⟨flatThousand, "SALES", true⟩ ∧
      request ⟨flatThousand, "SALES", true⟩ = .ok ⟨flatThousand, .sales, true, rfl⟩ ∧
      flatThousand.value = 1000 ∧
      (Condition.amount .greaterThan (Decimal.ofNat 1000)).holds
        ⟨flatThousand, .sales, true, rfl⟩ = false := by
  have hchars : pastThousandAmount.chars = "1000.00000000000000000000000004".toList := by decide
  have hpast : 1000 < pastThousandAmount.value := by decide +kernel
  have hliteral : Decimal.readLiteral "1000.00000000000000000000000004" = some flatThousand := by
    decide
  have hflat : flatThousand.value = 1000 := by decide +kernel
  have hunheld : ¬ Held pastThousandAmount.value := by
    intro hheld
    have hvalue := (Decimal.readLiteral_value_iff hchars hliteral).2 ⟨trivial, hheld⟩
    rw [hflat] at hvalue
    exact absurd hvalue hpast.ne
  exact ⟨by decide +kernel, hchars, hpast, hunheld, by decide +kernel, by decide, hflat, by decide⟩

end RequestBody

end InvoiceApproval
