/-
What a decimal can hold.

A decimal has room for a coefficient below 2^96 and twenty-eight places.  `Held` is the
plain question whether a number fits in there at all, whatever it was written like.

A reader does not ask that.  It takes digits behind the point for as long as they fit,
and `absorb_absorbed` says what it is left with when it stops: it has used up its
places, or the next digit would push the coefficient past its bound.  The two come to
the same.  If a number without exponent can be held, then every digit that was not taken
is a zero (`rest_eq_zero_of_held`), because a coefficient and a scale that would do
better would have to leave room where the reader found none.
-/
import InvoiceApproval.Proofs.Decimal.Writing

namespace InvoiceApproval

open Text (digitValue digitsValue appendDigits)

/-- Some decimal is this number. -/
def Held (q : Rat) : Prop := ∃ d : Decimal, d.value = q

namespace Decimal

/-- What a sign in front does to a number. -/
def signFactor (negative : Bool) : Rat := if negative then -1 else 1

theorem value_eq (d : Decimal) :
    d.value = signFactor d.negative * ((d.magnitude : Rat) / 10 ^ d.scale) := by
  unfold value coefficient signFactor
  rw [tenTo_eq]
  cases d.negative <;> push_cast <;> simp [neg_div]

/-- What is made of a sign, a coefficient and a scale is their number. -/
theorem value_of_make? {negative : Bool} {m s : Nat} {d : Decimal}
    (h : make? negative m s = some d) :
    d.value = signFactor negative * ((m : Rat) / 10 ^ s) := by
  unfold make? at h
  split at h
  · simp only [Option.some.injEq] at h
    subst h
    rw [value_eq]
    by_cases hm : m = 0
    · simp [hm]
    · have hne : (m != 0) = true := bne_iff_ne.2 hm
      simp only [hne, Bool.and_true]
  · simp at h

end Decimal

/-- A number that can be held has, without its sign, a coefficient and a scale in bounds. -/
theorem Held.exists_coefficient {factor q : Rat} (hfactor : factor = 1 ∨ factor = -1)
    (hq : 0 ≤ q) (h : Held (factor * q)) :
    ∃ M S : Nat, M < Decimal.bound ∧ S ≤ 28 ∧ q = (M : Rat) / 10 ^ S := by
  obtain ⟨d, hd⟩ := h
  refine ⟨d.magnitude, d.scale, d.magnitude_lt, d.scale_le, ?_⟩
  have hsize : (0 : Rat) ≤ (d.magnitude : Rat) / 10 ^ d.scale := by positivity
  rw [d.value_eq, Decimal.signFactor] at hd
  -- Two signs that differ leave only a zero.
  rcases hfactor with hf | hf <;> rw [hf] at hd <;> split at hd <;> linarith

/-! ### Digits -/

theorem digitValue_le {c : Char} (h : c.isDigit = true) : digitValue c ≤ 9 := by
  simp only [Char.isDigit, Bool.and_eq_true, decide_eq_true_eq, UInt32.le_iff_toNat_le] at h
  have hnine : c.val.toNat ≤ 57 := h.2
  show c.val.toNat - 48 ≤ 9
  omega

/-- A row of digits denotes less than the power of ten that it is long. -/
theorem digitsValue_lt {ds : List Char} (h : ∀ c ∈ ds, c.isDigit = true) :
    digitsValue ds < 10 ^ ds.length := by
  induction ds with
  | nil => decide
  | cons c ds ih =>
      have hc := digitValue_le (h c (by simp))
      have hds := ih fun d hd => h d (by simp [hd])
      rw [digitsValue_cons, List.length_cons, Nat.pow_succ]
      have := Nat.mul_le_mul_right (10 ^ ds.length) hc
      omega

theorem isDigit_of_mem_digitsOf {cs : List Char} {c : Char} (h : c ∈ digitsOf cs) :
    c.isDigit = true := (List.mem_filter.1 h).2

@[simp] theorem digitsOf_append (xs ys : List Char) :
    digitsOf (xs ++ ys) = digitsOf xs ++ digitsOf ys := by
  simp [digitsOf]

theorem digitsOf_cons_digit {c : Char} (h : c.isDigit = true) (cs : List Char) :
    digitsOf (c :: cs) = c :: digitsOf cs := by
  simp [digitsOf, h]

theorem digitsOf_cons_underscore (cs : List Char) : digitsOf ('_' :: cs) = digitsOf cs := rfl

/-! ### Where a reader stops -/

namespace Numeral

/-- What a reader has done with the marks behind the point: it has taken those in front
into the coefficient, and it has a reason not to take the rest. -/
structure Absorbed (start scale : Nat) (marks : List Char) (m s : Nat) (left : List Char) :
    Prop where
  taken : ∃ front, marks = front ++ left ∧ s = scale + (digitsOf front).length ∧
    m = appendDigits start (digitsOf front)
  lt : m < Decimal.bound
  le : s ≤ 28
  /-- Nothing is left, or there are no more places, or the next digit does not fit. -/
  full : left = [] ∨ s = 28 ∨
    ∃ c rest, left = c :: rest ∧ c.isDigit = true ∧ Decimal.bound ≤ m * 10 + digitValue c

/-- A separator is taken without a trace. -/
theorem Absorbed.underscore {start scale m s : Nat} {marks left : List Char}
    (h : Absorbed start scale marks m s left) : Absorbed start scale ('_' :: marks) m s left := by
  obtain ⟨front, hfront, hs, hm⟩ := h.taken
  refine ⟨⟨'_' :: front, ?_, ?_, ?_⟩, h.lt, h.le, h.full⟩
  · rw [List.cons_append, ← hfront]
  · rw [digitsOf_cons_underscore]
    exact hs
  · rw [digitsOf_cons_underscore]
    exact hm

/-- A digit is taken into the coefficient, and takes a place. -/
theorem Absorbed.digit {start scale m s : Nat} {c : Char} {marks left : List Char}
    (hdigit : c.isDigit = true)
    (h : Absorbed (start * 10 + digitValue c) (scale + 1) marks m s left) :
    Absorbed start scale (c :: marks) m s left := by
  obtain ⟨front, hfront, hs, hm⟩ := h.taken
  refine ⟨⟨c :: front, ?_, ?_, ?_⟩, h.lt, h.le, h.full⟩
  · rw [List.cons_append, ← hfront]
  · rw [digitsOf_cons_digit hdigit, List.length_cons]
    omega
  · rw [digitsOf_cons_digit hdigit]
    exact hm

theorem absorb_absorbed {marks : List Char} (hmarks : ∀ c ∈ marks, c.isDigit = true ∨ c = '_') :
    ∀ {start scale : Nat}, start < Decimal.bound → scale ≤ 28 →
      Absorbed start scale marks (absorb start scale marks).1 (absorb start scale marks).2.1
        (absorb start scale marks).2.2 := by
  induction marks with
  | nil =>
      intro start scale hlt hle
      exact ⟨⟨[], rfl, rfl, rfl⟩, hlt, hle, Or.inl rfl⟩
  | cons c rest ih =>
      intro start scale hlt hle
      have ih := @ih fun d hd => hmarks d (by simp [hd])
      by_cases hfull : scale = 28
      · simp only [absorb, if_pos hfull]
        exact ⟨⟨[], rfl, rfl, rfl⟩, hlt, hle, Or.inr (Or.inl hfull)⟩
      by_cases hc : c = '_'
      · subst hc
        simp only [absorb, if_neg hfull, if_pos]
        exact (ih hlt hle).underscore
      have hdigit : c.isDigit = true := (hmarks c (by simp)).resolve_right hc
      by_cases hnext : start * 10 + digitValue c < Decimal.bound
      · simp only [absorb, if_neg hfull, if_neg hc, if_pos hnext]
        exact (ih hnext (show scale + 1 ≤ 28 by omega)).digit hdigit
      · simp only [absorb, if_neg hfull, if_neg hc, if_neg hnext]
        exact ⟨⟨[], rfl, rfl, rfl⟩, hlt, hle,
          Or.inr (Or.inr ⟨c, rest, rfl, hdigit, Nat.le_of_not_lt hnext⟩)⟩

end Numeral

/-! ### What is left tells whether the number fits -/

namespace Positional

variable {p : Positional} {m s : Nat} {left : List Char}

/-- A reader that has stopped has the number cut in two: the coefficient, and the digits
that are left. -/
theorem size_eq (h : Numeral.Absorbed p.numeral.wholeValue 0 p.behind m s left) :
    p.size = ((m * 10 ^ (digitsOf left).length + digitsValue (digitsOf left) : Nat) : Rat)
      / 10 ^ (s + (digitsOf left).length) := by
  obtain ⟨front, hfront, hs, hm⟩ := h.taken
  have hvalue : placeValue (digitsOf (p.whole ++ p.behind))
      = m * 10 ^ (digitsOf left).length + digitsValue (digitsOf left) := by
    rw [← digitsValue_eq_placeValue, hfront, digitsOf_append, digitsOf_append, digitsValue,
      Text.appendDigits_append, Text.appendDigits_append, Text.appendDigits_eq, tenTo_eq, hm]
    rfl
  have hplaces : (digitsOf p.behind).length = s + (digitsOf left).length := by
    rw [hfront, digitsOf_append, List.length_append, hs, Nat.zero_add]
  rw [size, hvalue, hplaces]

theorem size_nonneg (p : Positional) : 0 ≤ p.size := by
  unfold size
  positivity

theorem factor_cases (sign : SignMark) : sign.factor = 1 ∨ sign.factor = -1 := by
  cases sign <;> simp [SignMark.factor]

/-- A digit that does not fit makes the whole number too large for any more places. -/
theorem bound_le_of_next {c : Char} {rest : List Char} (hdigit : c.isDigit = true)
    (hnext : Decimal.bound ≤ m * 10 + digitValue c) :
    Decimal.bound * 10 ^ (digitsOf (c :: rest)).length
      ≤ (m * 10 ^ (digitsOf (c :: rest)).length + digitsValue (digitsOf (c :: rest))) * 10 := by
  rw [digitsOf_cons_digit hdigit, List.length_cons, digitsValue_cons]
  set k := (digitsOf rest).length
  set N := digitsValue (digitsOf rest)
  calc Decimal.bound * 10 ^ (k + 1) ≤ (m * 10 + digitValue c) * 10 ^ (k + 1) :=
        Nat.mul_le_mul_right _ hnext
    _ = (m * 10 ^ (k + 1) + digitValue c * 10 ^ k) * 10 := by ring
    _ ≤ (m * 10 ^ (k + 1) + (digitValue c * 10 ^ k + N)) * 10 := by
        apply Nat.mul_le_mul_right
        omega

/-- A number with no more places than `s` leaves nothing behind its first `s` places. -/
theorem eq_zero_of_fewer_places {M N k S : Nat} (hle : S ≤ s) (hlt : N < 10 ^ k)
    (heq : (m * 10 ^ k + N) * 10 ^ S = M * 10 ^ (s + k)) : N = 0 := by
  have hpow : 10 ^ (s + k) = 10 ^ (s - S) * 10 ^ k * 10 ^ S := by
    rw [← Nat.pow_add, ← Nat.pow_add]
    congr 1
    omega
  rw [hpow, ← Nat.mul_assoc] at heq
  have hwhole : m * 10 ^ k + N = M * 10 ^ (s - S) * 10 ^ k := by
    rw [Nat.eq_of_mul_eq_mul_right (Nat.pow_pos (Nat.succ_pos 9)) heq, Nat.mul_assoc]
  have hdvd : 10 ^ k ∣ N := by
    rw [← Nat.dvd_add_right (Nat.dvd_mul_left (10 ^ k) m), hwhole]
    exact Nat.dvd_mul_left ..
  exact Nat.eq_zero_of_dvd_of_lt hdvd hlt

/-- **If a number can be held, only zeros are left.** -/
theorem rest_eq_zero_of_held (h : Numeral.Absorbed p.numeral.wholeValue 0 p.behind m s left)
    (hheld : Held p.value) : digitsValue (digitsOf left) = 0 := by
  obtain ⟨M, S, hM, hS, hsize⟩ := hheld.exists_coefficient (factor_cases p.sign) p.size_nonneg
  set k := (digitsOf left).length with hk
  set N := digitsValue (digitsOf left) with hN
  have heq : (m * 10 ^ k + N) * 10 ^ S = M * 10 ^ (s + k) := by
    rw [size_eq h] at hsize
    have hrat : ((m * 10 ^ k + N : Nat) : Rat) * 10 ^ S = M * 10 ^ (s + k) := by
      field_simp at hsize
      linarith
    exact_mod_cast hrat
  by_cases hle : S ≤ s
  · exact eq_zero_of_fewer_places hle (digitsValue_lt fun c hc => isDigit_of_mem_digitsOf hc) heq
  · -- With more places than the reader took there is room for its next digit.
    rcases h.full with hnil | hend | ⟨c, rest, hcons, hdigit, hnext⟩
    · rw [hN, hnil]
      rfl
    · omega
    · exfalso
      have hlarge : Decimal.bound * 10 ^ k ≤ (m * 10 ^ k + N) * 10 := by
        rw [hk, hN, hcons]
        exact bound_le_of_next hdigit hnext
      have hroom : Decimal.bound * 10 ^ (s + k) ≤ M * 10 ^ (s + k) := by
        calc Decimal.bound * 10 ^ (s + k) = Decimal.bound * 10 ^ k * 10 ^ s := by ring
          _ ≤ (m * 10 ^ k + N) * 10 * 10 ^ s := Nat.mul_le_mul_right _ hlarge
          _ = (m * 10 ^ k + N) * 10 ^ (s + 1) := by ring
          _ ≤ (m * 10 ^ k + N) * 10 ^ S :=
              Nat.mul_le_mul_left _ (Nat.pow_le_pow_right (Nat.succ_pos 9) (by omega))
          _ = M * 10 ^ (s + k) := heq
      have hbound := Nat.le_of_mul_le_mul_right hroom (Nat.pow_pos (Nat.succ_pos 9))
      omega

/-- If only zeros are left, the coefficient and scale that the reader has reached are the
number. -/
theorem size_eq_of_rest_eq_zero
    (h : Numeral.Absorbed p.numeral.wholeValue 0 p.behind m s left)
    (hzero : digitsValue (digitsOf left) = 0) : p.size = (m : Rat) / 10 ^ s := by
  rw [size_eq h, hzero]
  push_cast
  rw [pow_add]
  field_simp
  ring

end Positional

end InvoiceApproval
