/-
Decimals as they are written.

A decimal is written with as many digits behind the point as its scale says, and with
one digit before it at least.  Cut at the point, the digits are a number in writing
(`written`), so what the readers make of it is known: they give the decimal back, scale
and all (`readExact_own_chars`, `readLiteral_own_text`, `readTyped_own_text`).  It is the
spelling of a number in a document, too (`scanNumber_chars`).

A zero with a sign is the one decimal that does not come back: it loses the sign
(`dropZeroSign`).
-/
import InvoiceApproval.Proofs.Decimal.Exactness
import InvoiceApproval.Proofs.Json.Number

namespace InvoiceApproval

open Text (digitValue digitsValue appendDigits)

/-! ### Digits of a whole number -/

theorem digitsValue_toDigits (n : Nat) : digitsValue (Nat.toDigits 10 n) = n := by
  have h := Nat.ofDigitChars_ten_toDigits (n := n)
  rw [Nat.ofDigitChars_eq_foldl] at h
  unfold digitsValue appendDigits digitValue
  simpa only [Nat.mul_comm] using h

/-- Zeros in front count for nothing. -/
theorem digitsValue_replicate_append (k : Nat) (ds : List Char) :
    digitsValue (List.replicate k '0' ++ ds) = digitsValue ds := by
  induction k with
  | zero => rfl
  | succ k ih => exact ih

/-- No number but zero begins with a zero. -/
theorem head?_toDigits {n : Nat} (h : (Nat.toDigits 10 n).head? = some '0') : n = 0 := by
  induction n using Nat.strongRecOn with
  | ind n ih =>
      by_cases hlt : n < 10
      · rw [Nat.toDigits_of_lt_base hlt] at h
        have hall : ∀ n < 10, [Nat.digitChar n].head? = some '0' → n = 0 := by decide
        exact hall n hlt h
      · rw [Nat.toDigits_of_base_le (by decide) (Nat.le_of_not_lt hlt), List.head?_append_of_ne_nil _
          Nat.toDigits_ne_nil] at h
        have hzero := ih (n / 10) (by omega) h
        omega

namespace Decimal

variable (d : Decimal)

/-! ### The digits of a decimal -/

theorem isDigit_of_mem_digits {c : Char} (h : c ∈ d.digits) : c.isDigit = true := by
  rcases List.mem_append.1 h with h | h
  · rw [(List.mem_replicate.1 h).2]
    rfl
  · exact Nat.isDigit_of_mem_toDigits (by decide) (by decide) h

theorem digitsValue_digits : digitsValue d.digits = d.magnitude := by
  unfold digits
  rw [digitsValue_replicate_append, digitsValue_toDigits]

theorem length_digits :
    d.digits.length = max (d.scale + 1) (Nat.toDigits 10 d.magnitude).length := by
  unfold digits
  simp only [List.length_append, List.length_replicate]
  omega

/-- The digits before the point. -/
def wholeDigits : List Char := d.digits.take (d.digits.length - d.scale)

/-- The digits behind the point. -/
def fractionDigits : List Char := d.digits.drop (d.digits.length - d.scale)

theorem wholeDigits_append : d.wholeDigits ++ d.fractionDigits = d.digits :=
  List.take_append_drop ..

theorem isDigit_of_mem_wholeDigits {c : Char} (h : c ∈ d.wholeDigits) : c.isDigit = true :=
  d.isDigit_of_mem_digits (List.mem_of_mem_take h)

theorem isDigit_of_mem_fractionDigits {c : Char} (h : c ∈ d.fractionDigits) : c.isDigit = true :=
  d.isDigit_of_mem_digits (List.mem_of_mem_drop h)

theorem length_fractionDigits : d.fractionDigits.length = d.scale := by
  have h := d.length_digits
  unfold fractionDigits
  rw [List.length_drop]
  omega

theorem wholeDigits_ne_nil : d.wholeDigits ≠ [] := by
  have h := d.length_digits
  intro hnil
  have hlength := congrArg List.length hnil
  simp only [wholeDigits, List.length_take, List.length_nil] at hlength
  omega

/-- Before the point a zero stands alone. -/
theorem wholeDigits_ne_zero_cons (c : Char) (cs : List Char) : d.wholeDigits ≠ '0' :: c :: cs := by
  intro h
  have hlength := d.length_digits
  have htwo : 2 ≤ d.digits.length - d.scale := by
    have hle := congrArg List.length h
    simp only [wholeDigits, List.length_take, List.length_cons] at hle
    omega
  -- Two digits before the point leave no room for zeros in front.
  have hdigits : d.digits = Nat.toDigits 10 d.magnitude := by
    have hnone : d.scale + 1 - (Nat.toDigits 10 d.magnitude).length = 0 := by omega
    unfold digits
    simp only [hnone, List.replicate_zero, List.nil_append]
  have hzero : d.magnitude = 0 := by
    apply head?_toDigits
    rw [← hdigits, ← d.wholeDigits_append, h]
    rfl
  rw [hdigits, hzero, Nat.toDigits_zero] at htwo
  simp only [List.length_cons, List.length_nil] at htwo
  omega

/-- What stands behind the whole part of a decimal. -/
def pointAndFraction : List Char := if d.scale = 0 then [] else '.' :: d.fractionDigits

theorem chars_eq : d.chars = (if d.negative then ['-'] else []) ++
    (d.wholeDigits ++ d.pointAndFraction) :=
  List.append_assoc ..

/-- No decimal takes more than a sign, twenty-nine digits and a point. -/
theorem length_chars_le : d.chars.length ≤ 31 := by
  have hmagnitude : (Nat.toDigits 10 d.magnitude).length ≤ 29 :=
    Nat.toDigits_length 10 _ 29 (by decide) (Nat.lt_trans d.magnitude_lt (by decide))
  have hdigits : d.digits.length ≤ 29 := by
    have := d.scale_le
    rw [length_digits]
    omega
  have hcut := congrArg List.length d.wholeDigits_append
  rw [List.length_append] at hcut
  rw [chars_eq, pointAndFraction]
  simp only [List.length_append]
  split <;> split <;> simp only [List.length_cons, List.length_nil] <;> omega

/-! ### The number in writing -/

/-- A decimal as a number in writing. -/
def written : Positional where
  sign := if d.negative then .minus else .absent
  whole := d.wholeDigits
  fraction := if d.scale = 0 then none else some d.fractionDigits
  marks := by
    intro c hc
    rcases List.mem_append.1 hc with h | h
    · exact Or.inl (d.isDigit_of_mem_wholeDigits h)
    · split at h
      · exact absurd h (by simp)
      · exact Or.inl (d.isDigit_of_mem_fractionDigits h)
  begins := by
    obtain ⟨c, rest, hcons⟩ := List.exists_cons_of_ne_nil d.wholeDigits_ne_nil
    rw [hcons]
    exact ⟨c, _, rfl, d.isDigit_of_mem_wholeDigits (by simp [hcons])⟩

theorem written_chars : d.written.chars = d.chars := by
  rw [chars_eq]
  unfold written Positional.chars
  by_cases hscale : d.scale = 0 <;> by_cases hnegative : d.negative = true <;>
    simp [hscale, hnegative, SignMark.chars, pointAndFraction]

theorem written_behind : d.written.behind = d.fractionDigits := by
  unfold written Positional.behind
  by_cases hscale : d.scale = 0
  · have hnil : d.fractionDigits = [] := by
      rw [← List.length_eq_zero_iff, length_fractionDigits, hscale]
    simp [hscale, hnil]
  · simp [hscale]

/-! ### Reading it back -/

end Decimal

/-- A reader takes digits behind the point as long as the coefficient stays in bounds. -/
theorem Numeral.absorb_of_lt {ds : List Char} (hdigits : ∀ c ∈ ds, c.isDigit = true) :
    ∀ {start scale : Nat}, appendDigits start ds < Decimal.bound → scale + ds.length ≤ 28 →
      absorb start scale ds = (appendDigits start ds, scale + ds.length, []) := by
  induction ds with
  | nil =>
      intro start scale _ _
      rfl
  | cons c ds ih =>
      intro start scale hlt hle
      rw [List.length_cons] at hle
      have hc : c ≠ '_' := by
        rintro rfl
        exact absurd (hdigits '_' (by simp)) (by decide)
      have hnext : appendDigits (start * 10 + digitValue c) ds < Decimal.bound := hlt
      have hfits : start * 10 + digitValue c < Decimal.bound := by
        rw [Text.appendDigits_eq] at hnext
        have hpos : 0 < Text.tenTo ds.length := Nat.pow_pos (Nat.succ_pos 9)
        have := Nat.le_mul_of_pos_right (start * 10 + digitValue c) hpos
        omega
      rw [absorb, if_neg (by omega), if_neg hc]
      simp only [if_pos hfits]
      rw [ih (fun c hc => hdigits c (by simp [hc])) hnext (by omega)]
      rw [List.length_cons, Nat.add_assoc, Nat.add_comm 1]
      rfl

namespace Decimal

variable (d : Decimal)

/-- Whether only a number other than zero has a sign. -/
def Signed : Prop := d.negative = true → d.magnitude ≠ 0

/-- A decimal of which a zero has lost its sign. -/
def dropZeroSign : Decimal := { d with negative := d.negative && d.magnitude != 0 }

/-- Nothing but the sign of a zero is lost. -/
theorem dropZeroSign_eq_self_iff : d.dropZeroSign = d ↔ d.Signed := by
  obtain ⟨negative, magnitude, scale, _, _⟩ := d
  cases negative <;> simp [dropZeroSign, Signed]

theorem coefficient_dropZeroSign : d.dropZeroSign.coefficient = d.coefficient := by
  unfold coefficient dropZeroSign
  by_cases hzero : d.magnitude = 0 <;> simp [hzero]

/-- The number is the same. -/
theorem value_dropZeroSign : d.dropZeroSign.value = d.value := by
  unfold value
  rw [coefficient_dropZeroSign]
  rfl

theorem isNegative_dropZeroSign : d.dropZeroSign.isNegative = d.isNegative := by
  simp [isNegative, dropZeroSign]

/-- It is the sign that makes the difference in writing. -/
theorem toText_dropZeroSign_eq_iff : d.dropZeroSign.toText = d.toText ↔ d.Signed := by
  rw [← dropZeroSign_eq_self_iff]
  refine ⟨fun h => ?_, fun h => by rw [h]⟩
  have hchars : d.dropZeroSign.chars = d.chars := by
    rw [← String.toList_ofList (l := d.dropZeroSign.chars), ← String.toList_ofList (l := d.chars)]
    exact congrArg String.toList h
  rw [chars_eq, chars_eq] at hchars
  have hsign := List.append_cancel_right hchars
  obtain ⟨negative, magnitude, scale, _, _⟩ := d
  cases negative <;> simp_all [dropZeroSign]

theorem make?_eq_some : make? d.negative d.magnitude d.scale = some d.dropZeroSign :=
  dif_pos ⟨d.magnitude_lt, d.scale_le⟩

theorem written_wholeValue : d.written.numeral.wholeValue = digitsValue d.wholeDigits :=
  congrArg digitsValue (List.filter_eq_self.2 fun _ hc => d.isDigit_of_mem_wholeDigits hc)

theorem appendDigits_fractionDigits :
    appendDigits (digitsValue d.wholeDigits) d.fractionDigits = d.magnitude := by
  unfold digitsValue
  rw [← Text.appendDigits_append, wholeDigits_append]
  exact d.digitsValue_digits

theorem written_absorbed : d.written.absorbed = (d.magnitude, d.scale, []) := by
  unfold Positional.absorbed
  rw [written_wholeValue, written_behind, Numeral.absorb_of_lt]
  · rw [appendDigits_fractionDigits, length_fractionDigits, Nat.zero_add]
  · exact fun c hc => d.isDigit_of_mem_fractionDigits hc
  · rw [appendDigits_fractionDigits]
    exact d.magnitude_lt
  · rw [length_fractionDigits, Nat.zero_add]
    exact d.scale_le

theorem written_wholeValue_lt : d.written.numeral.wholeValue < bound := by
  have happend := d.appendDigits_fractionDigits
  rw [Text.appendDigits_eq] at happend
  have hpos : 0 < Text.tenTo d.fractionDigits.length := Nat.pow_pos (Nat.succ_pos 9)
  have := Nat.le_mul_of_pos_right (digitsValue d.wholeDigits) hpos
  have := d.magnitude_lt
  rw [written_wholeValue]
  omega

/-- **What a decimal is written like is read exactly, and as that decimal.** -/
theorem readExact_own_chars : readExact d.chars = some d.dropZeroSign := by
  have hnegative : d.written.numeral.negative = d.negative := by
    cases hn : d.negative <;> simp [Positional.numeral, written, hn]
  rw [← written_chars, readExact_chars, if_pos d.written_wholeValue_lt, written_absorbed,
    if_pos rfl, hnegative]
  exact d.make?_eq_some

/-- **A decimal that is written into a document is read back with its scale.** -/
theorem readLiteral_own_text : readLiteral d.toText = some d.dropZeroSign := by
  unfold readLiteral toText
  rw [String.toList_ofList]
  show (readRounded d.chars <|> _) = _
  rw [readRounded_of_readExact d.readExact_own_chars]
  rfl

/-- No blank is written. -/
theorem isBlank_of_mem_chars {c : Char} (hc : c ∈ d.chars) : Text.isBlank c = false := by
  rw [← written_chars] at hc
  rcases List.mem_append.1 hc with hsign | hunsigned
  · cases hn : d.written.sign <;> simp [hn, SignMark.chars] at hsign <;> subst hsign <;> decide
  · rcases Positional.mem_unsigned hunsigned with hdigit | rfl | rfl
    · exact Text.isBlank_of_isDigit hdigit
    · decide
    · decide

theorem trimmed_chars : Text.trimmed d.chars = d.chars :=
  Text.trimmed_of_not_blank fun _ => d.isBlank_of_mem_chars

/-- **A decimal that is typed as it is written is read back with its scale.** -/
theorem readTyped_own_text : readTyped d.toText = some d.dropZeroSign := by
  unfold readTyped toText
  rw [String.toList_ofList, trimmed_chars]
  show (readExact d.chars <|> _) = _
  rw [d.readExact_own_chars]
  rfl

/-! ### What is typed has a proper sign, and can be written as it is typed -/

variable {d}

theorem signed_of_make? {negative : Bool} {m s : Nat} (h : make? negative m s = some d) :
    d.Signed := by
  unfold make? at h
  split at h
  · simp only [Option.some.injEq] at h
    subst h
    intro hnegative hzero
    simp [show m = 0 from hzero] at hnegative
  · cases h

theorem signed_of_readExact {cs : List Char} (h : readExact cs = some d) : d.Signed := by
  obtain ⟨p, rfl⟩ := exists_plain_of_exact h
  rw [readExact_chars] at h
  split at h
  · split at h
    · exact signed_of_make? h
    · cases h
  · cases h

theorem signed_of_readRounded {cs : List Char} (h : readRounded cs = some d) : d.Signed := by
  obtain ⟨p, rfl⟩ := exists_plain_of_rounded h
  rw [readRounded_chars] at h
  split at h
  · split at h
    · obtain ⟨up, -, hmake⟩ := Option.bind_eq_some_iff.1 h
      exact signed_of_make? hmake
    · exact signed_of_make? h
  · cases h

theorem Signed.shiftDown {moved : Decimal} {places : Nat} (hd : d.Signed)
    (h : d.shiftDown places = some moved) : moved.Signed := by
  unfold Decimal.shiftDown at h
  split at h
  · cases h
    exact hd
  · cases h

theorem Signed.shiftUp {moved : Decimal} {places : Nat} (hd : d.Signed)
    (h : d.shiftUp places = some moved) : moved.Signed := by
  unfold Decimal.shiftUp at h
  split at h
  · cases h
    exact hd
  · exact signed_of_make? h

theorem signed_of_readTyped {raw : String} (h : readTyped raw = some d) : d.Signed := by
  obtain ⟨w, hw⟩ := exists_writing_of_readTyped h
  cases w with
  | plain p =>
      rw [readTyped_plain hw] at h
      exact signed_of_readExact h
  | scientific p x =>
      rw [readTyped_scientific hw] at h
      obtain ⟨b, hb, -, h⟩ := exists_of_readScientific h
      have hsigned := signed_of_readRounded hb
      split at h
      · exact hsigned.shiftDown h
      · exact hsigned.shiftUp h

theorem shiftDownRounded_of_shiftDown {moved : Decimal} {places : Nat}
    (h : d.shiftDown places = some moved) : d.shiftDownRounded places = moved := by
  unfold shiftDownRounded
  rw [h]

/-- **What is read as it is typed is read the same in a document.** -/
theorem readLiteral_trim_of_readTyped {raw : String} (h : readTyped raw = some d) :
    readLiteral (Text.trim raw) = some d := by
  obtain ⟨w, hw⟩ := exists_writing_of_readTyped h
  have hliteral : w.chars = (Text.trim raw).toList := by
    rw [hw, Text.trim, String.toList_ofList]
  cases w with
  | plain p =>
      rw [readTyped_plain hw] at h
      rw [readLiteral_plain hliteral]
      exact readRounded_of_readExact h
  | scientific p x =>
      rw [readTyped_scientific hw, readScientific_chars, Option.bind_eq_some_iff] at h
      obtain ⟨b, hb, h⟩ := h
      rw [readLiteral_scientific hliteral, readScientific_chars, hb, Option.bind_some]
      split at h
      · rename_i hplaces
        rw [if_pos hplaces]
        split at h
        · rename_i hdown
          rw [if_pos hdown, shiftDownRounded_of_shiftDown h]
        · rename_i hup
          rw [if_neg hup]
          exact h
      · cases h

/-! ### A number in a document -/

variable (d)

theorem wholePart?_chars :
    Scan.wholePart? (d.wholeDigits ++ d.pointAndFraction)
      = some (d.wholeDigits, d.pointAndFraction) := by
  have hrun : Scan.digitRun? (d.wholeDigits ++ d.pointAndFraction)
      = some (d.wholeDigits, d.pointAndFraction) := by
    apply Scan.digitRun?_digits d.wholeDigits_ne_nil fun c hc => d.isDigit_of_mem_wholeDigits hc
    unfold pointAndFraction
    split
    · simp
    · simp
  unfold Scan.wholePart?
  rw [hrun]
  split
  · rename_i heq
    simp only [Option.some.injEq, Prod.mk.injEq] at heq
    exact absurd heq.1 (d.wholeDigits_ne_zero_cons _ _)
  · rfl

theorem fractionPart?_chars :
    Scan.fractionPart? d.pointAndFraction = some (d.pointAndFraction, []) := by
  unfold pointAndFraction
  by_cases hscale : d.scale = 0
  · rw [if_pos hscale]
    rfl
  · rw [if_neg hscale]
    have hne : d.fractionDigits ≠ [] := by
      rw [← List.length_pos_iff, length_fractionDigits]
      omega
    have hrun : Scan.digitRun? (d.fractionDigits ++ []) = some (d.fractionDigits, []) :=
      Scan.digitRun?_digits hne (fun c hc => d.isDigit_of_mem_fractionDigits hc) (by simp)
    rw [List.append_nil] at hrun
    show (Scan.digitRun? d.fractionDigits).map _ = _
    rw [hrun]
    rfl

theorem unsignedNumber_chars (sign : List Char) :
    Scan.unsignedNumber sign (d.wholeDigits ++ d.pointAndFraction)
      = some (sign ++ (d.wholeDigits ++ d.pointAndFraction), []) := by
  unfold Scan.unsignedNumber
  rw [wholePart?_chars]
  simp [fractionPart?_chars, Scan.exponentPart?]

/-- **A decimal as it is written is a number in a document.** -/
theorem scanNumber_chars : Scan.scanNumber d.chars = some (d.chars, []) := by
  rw [chars_eq]
  cases d.negative with
  | true => exact d.unsignedNumber_chars ['-']
  | false =>
      have hunsigned : ∀ rest, d.wholeDigits ++ d.pointAndFraction ≠ '-' :: rest := by
        obtain ⟨c, ds, hcons⟩ := List.exists_cons_of_ne_nil d.wholeDigits_ne_nil
        have hc := d.isDigit_of_mem_wholeDigits (c := c) (by simp [hcons])
        intro rest heq
        rw [hcons] at heq
        rw [(List.cons.inj heq).1] at hc
        exact absurd hc (by decide)
      show Scan.scanNumber (d.wholeDigits ++ d.pointAndFraction) = _
      rw [Scan.scanNumber_unsigned hunsigned]
      exact d.unsignedNumber_chars []

end Decimal

end InvoiceApproval
