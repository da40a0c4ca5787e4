/-
Which amounts come in unchanged.

An amount is typed by a person or written into a document by a program.  Both ways in
put the rounding reader in front of an exponent, and there the two stop being exact: the
number that is kept is the one that is written exactly if what stands in front of the
exponent can be held (`FrontHeld`).  A document asks for one thing more, because its
readers also round what the exponent moves out of reach, namely that the number itself
can be held.

The condition is no matter of style.  A number of thirty digits just above a threshold
is read as the threshold if an exponent of zero stands behind it, and a number below
zero is read as zero and passes for an amount.  Wherever the condition holds nothing of
the kind can happen: what cannot be held is refused, thresholds are decided on the
number that was typed, and no amount below zero becomes a request.
-/
import InvoiceApproval.Proofs.Decimal.Order
import InvoiceApproval.Proofs.Decimal.Readers

namespace InvoiceApproval

/-- Whether the number in front of an exponent can be held.  Without an exponent there is
nothing to ask. -/
def Writing.FrontHeld : Writing → Prop
  | plain _ => True
  | scientific p _ => Held p.value

namespace Decimal

/-! ### Digits that the point moves out of reach -/

/-- Digits that are all zeros are dropped without loss. -/
theorem dropDigits_mul (m places : Nat) : dropDigits (m * 10 ^ places) places = m := by
  cases places with
  | zero => simp [dropDigits]
  | succ places =>
      have hkept : m * 10 ^ (places + 1) / Text.tenTo places = m * 10 := by
        rw [tenTo_eq, Nat.pow_succ, ← Nat.mul_assoc, Nat.mul_right_comm]
        exact Nat.mul_div_cancel _ (Nat.pow_pos (Nat.succ_pos 9))
      simp [dropDigits, hkept]

/-- A coefficient whose number can be held with fewer places ends in that many zeros. -/
theorem exists_of_held_div {negative : Bool} {m places excess : Nat}
    (hplaces : places = 28 + excess)
    (h : Held (signFactor negative * ((m : Rat) / 10 ^ places))) :
    ∃ kept, m = kept * 10 ^ excess := by
  have hfactor : signFactor negative = 1 ∨ signFactor negative = -1 := by
    cases negative <;> simp [signFactor]
  obtain ⟨M, S, -, hS, hsize⟩ := h.exists_coefficient hfactor (by positivity)
  refine ⟨M * 10 ^ (28 - S), ?_⟩
  have heq : (m : Rat) * 10 ^ S = M * 10 ^ places := by
    field_simp at hsize
    linarith
  have hnat : m * 10 ^ S = M * 10 ^ (28 - S) * 10 ^ excess * 10 ^ S := by
    have hpow : 10 ^ places = 10 ^ (28 - S) * 10 ^ excess * 10 ^ S := by
      rw [← Nat.pow_add, ← Nat.pow_add]
      congr 1
      omega
    rw [Nat.mul_assoc, Nat.mul_assoc, ← Nat.mul_assoc (10 ^ (28 - S)), ← hpow]
    exact_mod_cast heq
  exact Nat.eq_of_mul_eq_mul_right (Nat.pow_pos (Nat.succ_pos 9)) hnat

/-- **Moving the point to the left and rounding keeps a number that can be held.** -/
theorem value_of_shiftDownRounded {d : Decimal} {places : Nat}
    (hheld : Held (d.value * (1 / 10 ^ places))) :
    (d.shiftDownRounded places).value = d.value * (1 / 10 ^ places) := by
  unfold shiftDownRounded
  cases hmoved : d.shiftDown places with
  | some moved => exact value_of_shiftDown hmoved
  | none =>
      have hover : ¬ d.scale + places ≤ 28 := by
        intro hle
        simp [shiftDown, hle] at hmoved
      set excess := d.scale + places - 28 with hdef
      have hsplit : d.scale + places = 28 + excess := by omega
      have hvalue : d.value * (1 / 10 ^ places)
          = signFactor d.negative * ((d.magnitude : Rat) / 10 ^ (d.scale + places)) := by
        rw [value_eq, pow_add]
        field_simp
      rw [hvalue] at hheld ⊢
      obtain ⟨kept, hkept⟩ := exists_of_held_div hsplit hheld
      have hdrop : dropDigits d.magnitude excess = kept := by rw [hkept, dropDigits_mul]
      calc Decimal.value _
          = signFactor d.negative * ((dropDigits d.magnitude excess : Nat) / 10 ^ 28) := value_eq _
        _ = signFactor d.negative * ((d.magnitude : Rat) / 10 ^ (d.scale + places)) := by
            rw [hdrop, hkept, hsplit, pow_add]
            push_cast
            field_simp

/-- Moving the point back to the right undoes the move, as long as there are places. -/
theorem held_of_shiftDownRounded {d : Decimal} {places : Nat} {q : Rat} (hplaces : places ≤ 28)
    (h : (d.shiftDownRounded places).value = q * (1 / 10 ^ places)) : Held q := by
  unfold shiftDownRounded at h
  cases hmoved : d.shiftDown places with
  | some moved =>
      rw [hmoved] at h
      refine ⟨d, ?_⟩
      have hd := value_of_shiftDown hmoved
      exact mul_right_cancel₀ (by positivity) (hd.symm.trans h)
  | none =>
      rw [hmoved] at h
      set m := dropDigits d.magnitude (d.scale + places - 28)
      have hm : m < bound := Nat.lt_of_le_of_lt (dropDigits_le ..) d.magnitude_lt
      refine ⟨⟨d.negative, m, 28 - places, hm, Nat.sub_le ..⟩, ?_⟩
      rw [value_eq] at h ⊢
      simp only at h ⊢
      have hpow : (10 : Rat) ^ 28 = 10 ^ (28 - places) * 10 ^ places := by
        rw [← pow_add, Nat.sub_add_cancel hplaces]
      rw [hpow] at h
      field_simp at h
      field_simp
      linarith

/-! ### What is typed -/

theorem readTyped_plain {raw : String} {p : Positional}
    (hw : (Writing.plain p).chars = Text.trimmed raw.toList) :
    readTyped raw = readExact p.chars := by
  unfold readTyped
  rw [← hw]
  show (readExact p.chars <|> readScientific shiftDown p.chars) = _
  rw [readScientific_plain]
  cases readExact p.chars <;> rfl

theorem readTyped_scientific {raw : String} {p : Positional} {x : Exponent}
    (hw : (Writing.scientific p x).chars = Text.trimmed raw.toList) :
    readTyped raw = readScientific shiftDown (Writing.scientific p x).chars := by
  unfold readTyped
  rw [← hw]
  show (readExact (Writing.scientific p x).chars <|> _) = _
  rw [readExact_scientific]
  rfl

/-- What the reader of typed amounts takes is a number in writing. -/
theorem exists_writing_of_readTyped {raw : String} {d : Decimal} (h : readTyped raw = some d) :
    ∃ w : Writing, w.chars = Text.trimmed raw.toList := by
  unfold readTyped at h
  rcases (Option.orElse_eq_some ..).1 h with h | ⟨-, h⟩
  · obtain ⟨p, hp⟩ := exists_plain_of_exact h
    exact ⟨.plain p, hp⟩
  · obtain ⟨p, x, hw⟩ := exists_scientific h
    exact ⟨.scientific p x, hw⟩

/-- **A typed amount is read as the number that is typed exactly if the number in front of
its exponent can be held.** -/
theorem readTyped_value_iff {raw : String} {w : Writing} {d : Decimal}
    (hw : w.chars = Text.trimmed raw.toList) (h : readTyped raw = some d) :
    d.value = w.value ↔ w.FrontHeld := by
  cases w with
  | plain p =>
      rw [readTyped_plain hw] at h
      exact iff_of_true (value_of_readExact h) trivial
  | scientific p x =>
      rw [readTyped_scientific hw] at h
      obtain ⟨b, hb, hvalue⟩ := exists_of_readScientific_shiftDown h
      show d.value = p.value * x.factor ↔ Held p.value
      rw [hvalue, mul_left_inj' x.factor_ne_zero]
      exact readRounded_value_iff hb

theorem parseTyped_eq_ok_iff {raw : String} {d : Decimal} :
    parseTyped raw = .ok d ↔ readTyped raw = some d := by
  unfold parseTyped
  cases readTyped raw <;> simp

theorem parseTyped_eq_error_iff {raw : String} {cause : ValidationError} :
    parseTyped raw = .error cause ↔ readTyped raw = none ∧ .malformedAmount raw = cause := by
  unfold parseTyped
  cases readTyped raw <;> simp

/-- A negative amount becomes no request, whatever the department. -/
theorem ofParts_of_isNegative {d : Decimal} (h : d.isNegative = true) (department : String)
    (flag : Bool) : ∃ cause, ApprovalRequest.ofParts d department flag = .error cause := by
  unfold ApprovalRequest.ofParts
  cases Department.parse department with
  | error cause => exact ⟨cause, rfl⟩
  | ok department => exact ⟨.negativeAmount d, dif_neg (by simp [h])⟩

/-- What it takes for a typed amount to come in as the number that is typed. -/
structure TypedExactly (raw : String) (w : Writing) : Prop where
  /-- What is read is the number, -/
  value : ∀ d, parseTyped raw = .ok d → d.value = w.value
  /-- a number that no decimal can hold is refused, -/
  refused : ¬ Held w.value → parseTyped raw = .error (.malformedAmount raw)
  /-- a threshold is compared with the number, -/
  compared : ∀ d, parseTyped raw = .ok d →
    ∀ threshold : Decimal, d.compare threshold = Ord.compare w.value threshold.value
  /-- and a number below zero becomes no request. -/
  nonneg : w.value < 0 →
    ∀ department flag, ∃ cause, ApprovalRequest.ofTyped raw department flag = .error cause

theorem typedExactly_of_frontHeld {raw : String} {w : Writing}
    (hw : w.chars = Text.trimmed raw.toList) (hfront : w.FrontHeld) : TypedExactly raw w := by
  have hvalue : ∀ d, parseTyped raw = .ok d → d.value = w.value := fun d hd =>
    (readTyped_value_iff hw (parseTyped_eq_ok_iff.1 hd)).2 hfront
  refine ⟨hvalue, ?_, ?_, ?_⟩
  · intro hheld
    cases hparse : parseTyped raw with
    | error cause => rw [(parseTyped_eq_error_iff.1 hparse).2]
    | ok d => exact absurd ⟨d, hvalue d hparse⟩ hheld
  · intro d hd threshold
    rw [compare_eq, hvalue d hd]
  · intro hneg department flag
    unfold ApprovalRequest.ofTyped
    cases hparse : parseTyped raw with
    | error cause => exact ⟨cause, rfl⟩
    | ok d =>
        have hd : d.isNegative = true := (isNegative_iff d).2 (by rw [hvalue d hparse]; exact hneg)
        exact ofParts_of_isNegative hd department flag

/-- **Typed amounts.**  Whatever is taken is a number in writing.  It is taken for the
number that is written exactly if the number in front of its exponent can be held, and
in that case what cannot be held is refused, thresholds are decided on the number that
is written, and no number below zero becomes a request. -/
theorem typed_amount_exact (raw : String) :
    (∀ d, parseTyped raw = .ok d → ∃ w : Writing, w.chars = Text.trimmed raw.toList) ∧
      ∀ w : Writing, w.chars = Text.trimmed raw.toList →
        (∀ d, parseTyped raw = .ok d → (d.value = w.value ↔ w.FrontHeld)) ∧
          (w.FrontHeld → TypedExactly raw w) := by
  refine ⟨fun d hd => exists_writing_of_readTyped (parseTyped_eq_ok_iff.1 hd), ?_⟩
  intro w hw
  exact ⟨fun d hd => readTyped_value_iff hw (parseTyped_eq_ok_iff.1 hd),
    typedExactly_of_frontHeld hw⟩

/-- A number just above a thousand, with more digits than can be held and an exponent of
zero. -/
def overThousand : Writing :=
  .scientific
    ⟨.absent, "1000".toList, some "00000000000000000000000004".toList, marks_of_all rfl,
      ⟨'1', _, rfl, rfl⟩⟩
    ⟨'e', false, false, ['0'], Or.inl rfl, List.cons_ne_nil _ _, List.all_eq_true.1 rfl⟩

/-- A number just below zero, with more places than can be held and an exponent of zero. -/
def underZero : Writing :=
  .scientific
    ⟨.minus, "0".toList, some "00000000000000000000000000001".toList, marks_of_all rfl,
      ⟨'0', _, rfl, rfl⟩⟩
    ⟨'e', false, false, ['0'], Or.inl rfl, List.cons_ne_nil _ _, List.all_eq_true.1 rfl⟩

/-- An exponent of zero turns a number above a threshold into the threshold, and a number
below zero into an amount that is accepted. -/
theorem typed_amount_rounded_in_front :
    (overThousand.chars = Text.trimmed "1000.00000000000000000000000004e0".toList ∧
      1000 < overThousand.value ∧ ¬ Held overThousand.value ∧
      ∃ d, parseTyped "1000.00000000000000000000000004e0" = .ok d ∧ d.value = 1000) ∧
    (underZero.chars = Text.trimmed "-0.00000000000000000000000000001e0".toList ∧
      underZero.value < 0 ∧
      ∃ r, ApprovalRequest.ofTyped "-0.00000000000000000000000000001e0" "SALES" true = .ok r ∧
        r.amount.value = 0) := by
  have hchars : overThousand.chars = Text.trimmed "1000.00000000000000000000000004e0".toList := by
    decide
  have hover : 1000 < overThousand.value := by decide +kernel
  obtain ⟨d, hparse, hd⟩ :
      ∃ d, parseTyped "1000.00000000000000000000000004e0" = .ok d ∧ d.value = 1000 :=
    ⟨_, rfl, by decide +kernel⟩
  have hunheld : ¬ Held overThousand.value := by
    -- If it could be held, it would have been read as it is written, and not as a thousand.
    intro hheld
    have hbase : overThousand.value = overThousand.base.value := by decide +kernel
    have hfront : overThousand.FrontHeld := by
      rw [hbase] at hheld
      exact hheld
    have hvalue := (readTyped_value_iff hchars (parseTyped_eq_ok_iff.1 hparse)).2 hfront
    rw [hd] at hvalue
    exact absurd hvalue hover.ne
  exact ⟨⟨hchars, hover, hunheld, d, hparse, hd⟩, by decide, by decide +kernel, _, rfl,
    by decide +kernel⟩

/-! ### What stands in a document -/

theorem readLiteral_plain {literal : String} {p : Positional}
    (hw : (Writing.plain p).chars = literal.toList) :
    readLiteral literal = readRounded p.chars := by
  unfold readLiteral
  rw [← hw]
  show (readRounded p.chars <|> readScientific _ p.chars) = _
  rw [readScientific_plain]
  cases readRounded p.chars <;> rfl

theorem readLiteral_scientific {literal : String} {p : Positional} {x : Exponent}
    (hw : (Writing.scientific p x).chars = literal.toList) :
    readLiteral literal = readScientific (fun d places => some (d.shiftDownRounded places))
      (Writing.scientific p x).chars := by
  unfold readLiteral
  rw [← hw]
  show (readRounded (Writing.scientific p x).chars <|> _) = _
  rw [readRounded_scientific]
  rfl

/-- What the reader of documents takes is a number in writing. -/
theorem exists_writing_of_readLiteral {literal : String} {d : Decimal}
    (h : readLiteral literal = some d) : ∃ w : Writing, w.chars = literal.toList := by
  unfold readLiteral at h
  rcases (Option.orElse_eq_some ..).1 h with h | ⟨-, h⟩
  · obtain ⟨p, hp⟩ := exists_plain_of_rounded h
    exact ⟨.plain p, hp⟩
  · obtain ⟨p, x, hw⟩ := exists_scientific h
    exact ⟨.scientific p x, hw⟩

/-- **A number in a document is read as the number that is written exactly if it and the
number in front of its exponent can be held.** -/
theorem readLiteral_value_iff {literal : String} {w : Writing} {d : Decimal}
    (hw : w.chars = literal.toList) (h : readLiteral literal = some d) :
    d.value = w.value ↔ w.FrontHeld ∧ Held w.value := by
  cases w with
  | plain p =>
      rw [readLiteral_plain hw] at h
      rw [show (Writing.plain p).FrontHeld ↔ True from Iff.rfl, true_and]
      exact readRounded_value_iff h
  | scientific p x =>
      rw [readLiteral_scientific hw] at h
      obtain ⟨b, hb, hplaces, h⟩ := exists_of_readScientific h
      have hfront := readRounded_value_iff hb
      show d.value = p.value * x.factor ↔ Held p.value ∧ Held (p.value * x.factor)
      cases hn : x.negative with
      | false =>
          have hfactor : x.factor = 10 ^ x.places := by simp [Exponent.factor, hn]
          rw [hn, if_neg Bool.false_ne_true] at h
          rw [← hfront, hfactor, value_of_shiftUp h, mul_left_inj' (by positivity)]
          exact ⟨fun heq => ⟨heq, d, by rw [value_of_shiftUp h, heq]⟩, And.left⟩
      | true =>
          have hfactor : x.factor = 1 / 10 ^ x.places := by simp [Exponent.factor, hn]
          rw [hn, if_pos rfl, Option.some.injEq] at h
          rw [hfactor, ← h]
          constructor
          · intro heq
            exact ⟨held_of_shiftDownRounded hplaces heq, _, heq⟩
          · rintro ⟨hheld, hmoved⟩
            rw [← hfront.2 hheld] at hmoved ⊢
            exact value_of_shiftDownRounded hmoved

end Decimal

end InvoiceApproval
