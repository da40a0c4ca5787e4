/-
What the readers make of a number.

Three laws, one for each thing that can happen to a number on its way in.

* The exact reader gives the number, or nothing.
* The rounding reader gives the number if it can be held, and otherwise another one.
  It agrees with the exact reader wherever that one gives something.
* Moving the point multiplies by a power of ten, or gives nothing.

The scientific reader is made of the last two, so it is exact if what stands in front of
the exponent can be held.  That is not the same as being exact whenever the number can
be held: `0.00000000000000000000000000005e1` is a decimal, and the number in front of
its exponent is none.
-/
import InvoiceApproval.Proofs.Decimal.Capacity

namespace InvoiceApproval

open Text (digitValue digitsValue)

/-! ### Rounding -/

theorem digitValue_eq_zero_of_mem {ds : List Char} (h : digitsValue ds = 0) :
    ∀ c ∈ ds, digitValue c = 0 := by
  induction ds with
  | nil => simp
  | cons d ds ih =>
      rw [digitsValue_cons] at h
      intro c hc
      rcases List.mem_cons.1 hc with rfl | hc
      · have hpos : 0 < 10 ^ ds.length := Nat.pow_pos (Nat.succ_pos 9)
        have hprod : digitValue c * 10 ^ ds.length = 0 := by omega
        exact (Nat.mul_eq_zero.1 hprod).resolve_right (by omega)
      · exact ih (by omega) c hc

/-- Zeros do not round anything up. -/
theorem Numeral.deciding_eq_zero {m : Nat} {left : List Char}
    (hmarks : ∀ c ∈ left, c.isDigit = true ∨ c = '_') (h : digitsValue (digitsOf left) = 0) :
    deciding m left = 0 := by
  have hzero := digitValue_eq_zero_of_mem h
  cases left with
  | nil => rfl
  | cons c rest =>
      simp only [deciding]
      by_cases hc : c = '_'
      · subst hc
        simp only [bne_self_eq_false, Bool.false_eq_true, if_false]
        split
        · cases hfind : rest.find? Char.isDigit with
          | none => rfl
          | some d =>
              have hmem : d ∈ digitsOf ('_' :: rest) :=
                List.mem_filter.2 ⟨by simp [List.mem_of_find?_eq_some hfind], List.find?_some hfind⟩
              simpa using hzero d hmem
        · rfl
      · have hdigit : c.isDigit = true := (hmarks c (by simp)).resolve_right hc
        rw [if_pos (bne_iff_ne.2 hc)]
        exact hzero c (by rw [digitsOf_cons_digit hdigit]; simp)

namespace Positional

/-- The coefficient, the scale and the marks left when a reader stops behind the point. -/
def absorbed (p : Positional) : Nat × Nat × List Char :=
  Numeral.absorb p.numeral.wholeValue 0 p.behind

theorem absorbed_spec {p : Positional} (h : p.numeral.wholeValue < Decimal.bound) :
    Numeral.Absorbed p.numeral.wholeValue 0 p.behind p.absorbed.1 p.absorbed.2.1
      p.absorbed.2.2 :=
  Numeral.absorb_absorbed (fun c hc => mem_behind hc) h (by decide)

theorem signFactor_eq (p : Positional) :
    Decimal.signFactor (decide (p.sign = .minus)) = p.sign.factor := by
  cases h : p.sign <;> simp [Decimal.signFactor, SignMark.factor]

/-- Where only zeros are left, what has been read is the number. -/
theorem value_of_make? {p : Positional} {d : Decimal} (hw : p.numeral.wholeValue < Decimal.bound)
    (hzero : digitsValue (digitsOf p.absorbed.2.2) = 0)
    (h : Decimal.make? p.numeral.negative p.absorbed.1 p.absorbed.2.1 = some d) :
    d.value = p.value := by
  rw [Decimal.value_of_make? h, value, size_eq_of_rest_eq_zero (absorbed_spec hw) hzero]
  exact congrArg (· * _) p.signFactor_eq

end Positional

/-- An exponent never makes a number nothing. -/
theorem Exponent.factor_ne_zero (x : Exponent) : x.factor ≠ 0 := by
  unfold factor
  split <;> positivity

namespace Decimal

/-! ### Numbers without exponent -/

theorem readExact_chars (p : Positional) :
    readExact p.chars = if p.numeral.wholeValue < bound then
      if p.absorbed.2.2 = [] then make? p.numeral.negative p.absorbed.1 p.absorbed.2.1 else none
    else none := by
  unfold readExact
  rw [p.ofChars?_chars]
  rcases habsorbed : p.absorbed with ⟨m, s, _ | ⟨c, rest⟩⟩ <;>
    simp [show Numeral.absorb p.numeral.wholeValue 0 p.numeral.fraction = _ from habsorbed]

theorem readRounded_chars (p : Positional) :
    readRounded p.chars = if p.numeral.wholeValue < bound then
      if 5 ≤ Numeral.deciding p.absorbed.1 p.absorbed.2.2 then
        (Numeral.roundUp p.absorbed.1 p.absorbed.2.1).bind fun up =>
          make? p.numeral.negative up.1 up.2
      else make? p.numeral.negative p.absorbed.1 p.absorbed.2.1
    else none := by
  unfold readRounded
  rw [p.ofChars?_chars]
  rfl

/-- An exponent is for neither of these two readers. -/
theorem readExact_scientific (p : Positional) (x : Exponent) :
    readExact (Writing.scientific p x).chars = none := by
  unfold readExact
  rw [ofChars?_scientific]
  rfl

theorem readRounded_scientific (p : Positional) (x : Exponent) :
    readRounded (Writing.scientific p x).chars = none := by
  unfold readRounded
  rw [ofChars?_scientific]
  rfl

/-- **What is read exactly is the number that is written.** -/
theorem value_of_readExact {p : Positional} {d : Decimal} (h : readExact p.chars = some d) :
    d.value = p.value := by
  rw [readExact_chars] at h
  split at h
  · rename_i hw
    split at h
    · rename_i hleft
      exact Positional.value_of_make? hw (by rw [hleft]; rfl) h
    · simp at h
  · simp at h

/-- Where nothing is left, there is nothing to round. -/
theorem readRounded_of_readExact {cs : List Char} {d : Decimal} (h : readExact cs = some d) :
    readRounded cs = some d := by
  obtain ⟨p, rfl⟩ := exists_plain_of_exact h
  rw [readExact_chars] at h
  rw [readRounded_chars]
  split at h
  · rename_i hw
    split at h
    · rename_i hleft
      rw [if_pos hw, hleft, if_neg (by simp [Numeral.deciding])]
      exact h
    · simp at h
  · simp at h

/-- **Rounding keeps a number that can be held.** -/
theorem value_of_readRounded {p : Positional} {d : Decimal} (h : readRounded p.chars = some d)
    (hheld : Held p.value) : d.value = p.value := by
  rw [readRounded_chars] at h
  split at h
  · rename_i hw
    have hspec := Positional.absorbed_spec hw
    have hzero := Positional.rest_eq_zero_of_held hspec hheld
    have hmarks : ∀ c ∈ p.absorbed.2.2, c.isDigit = true ∨ c = '_' := by
      obtain ⟨front, hfront, -, -⟩ := hspec.taken
      exact fun c hc => Positional.mem_behind (by rw [hfront]; simp [hc])
    rw [Numeral.deciding_eq_zero hmarks hzero, if_neg (by decide)] at h
    exact Positional.value_of_make? hw hzero h
  · simp at h

/-- A number without exponent is kept exactly if it can be held. -/
theorem readRounded_value_iff {p : Positional} {d : Decimal} (h : readRounded p.chars = some d) :
    d.value = p.value ↔ Held p.value :=
  ⟨fun heq => ⟨d, heq⟩, value_of_readRounded h⟩

/-! ### Moving the point -/

theorem value_of_shiftDown {d moved : Decimal} {places : Nat}
    (h : d.shiftDown places = some moved) : moved.value = d.value * (1 / 10 ^ places) := by
  unfold shiftDown at h
  split at h
  · simp only [Option.some.injEq] at h
    subst h
    rw [value_eq, value_eq]
    simp only
    rw [pow_add]
    field_simp
  · simp at h

theorem value_of_shiftUp {d moved : Decimal} {places : Nat}
    (h : d.shiftUp places = some moved) : moved.value = d.value * 10 ^ places := by
  unfold shiftUp at h
  split at h
  · rename_i hle
    simp only [Option.some.injEq] at h
    subst h
    rw [value_eq, value_eq]
    have hpow : (10 : Rat) ^ d.scale = 10 ^ (d.scale - places) * 10 ^ places := by
      rw [← pow_add, Nat.sub_add_cancel hle]
    simp only [hpow]
    field_simp
  · rename_i hlt
    have hpow : (10 : Rat) ^ places = 10 ^ (places - d.scale) * 10 ^ d.scale := by
      rw [← pow_add, Nat.sub_add_cancel (by omega)]
    rw [value_of_make? h, value_eq, tenTo_eq, hpow]
    push_cast
    field_simp

/-- What stands in front of an exponent and the exponent are read one after the other. -/
theorem exists_of_readScientific {down : Decimal → Nat → Option Decimal} {p : Positional}
    {x : Exponent} {d : Decimal} (h : readScientific down (Writing.scientific p x).chars = some d) :
    ∃ b, readRounded p.chars = some b ∧ x.places ≤ 28 ∧
      (if x.negative then down b x.places else b.shiftUp x.places) = some d := by
  rw [readScientific_chars, Option.bind_eq_some_iff] at h
  obtain ⟨b, hb, h⟩ := h
  split at h
  · rename_i hplaces
    exact ⟨b, hb, hplaces, h⟩
  · simp at h

/-- Typed notation moves the point by exactly what the exponent says. -/
theorem exists_of_readScientific_shiftDown {p : Positional} {x : Exponent} {d : Decimal}
    (h : readScientific shiftDown (Writing.scientific p x).chars = some d) :
    ∃ b, readRounded p.chars = some b ∧ d.value = b.value * x.factor := by
  obtain ⟨b, hb, -, h⟩ := exists_of_readScientific h
  refine ⟨b, hb, ?_⟩
  unfold Exponent.factor
  split at h
  · rename_i hnegative
    rw [if_pos hnegative]
    exact value_of_shiftDown h
  · rename_i hnegative
    rw [if_neg hnegative]
    exact value_of_shiftUp h

end Decimal

end InvoiceApproval
