/-
Requests of any length.

Zeros in front of an amount count for nothing, and there may be as many of them as one
likes.  So what asks for seven can be made longer than any bound, typed or in a document, and
still ask for seven (`readTyped_zeroFilled`).

The other way round, a document that is written without blanks is not much longer than what
stands in it: a character between quotes takes six at most (`length_quoted`), and a record
takes what its fields take (`length_compactFields_le`).
-/
import InvoiceApproval.Proofs.Decimal.Exactness
import InvoiceApproval.Proofs.Decimal.Written
import InvoiceApproval.Proofs.Request.Body

namespace InvoiceApproval

open Text (digitsValue)

/-! ### Rows of digits -/

/-- A row of digits as a number in writing. -/
def Positional.ofDigits (c : Char) (cs : List Char) (h : ∀ d ∈ c :: cs, d.isDigit = true) :
    Positional where
  sign := .absent
  whole := c :: cs
  fraction := none
  marks := fun d hd => .inl (h d (by simpa using hd))
  begins := ⟨c, cs, by simp, h c List.mem_cons_self⟩

namespace Decimal

/-- A row of digits is read as the whole number that it denotes, if that number can be held. -/
theorem readTyped_digits {c : Char} {cs : List Char} (h : ∀ d ∈ c :: cs, d.isDigit = true) :
    readTyped (String.ofList (c :: cs)) = make? false (digitsValue (c :: cs)) 0 := by
  have hchars : (Positional.ofDigits c cs h).chars = c :: cs := by
    simp [Positional.chars, Positional.ofDigits, SignMark.chars]
  have hvalue : (Positional.ofDigits c cs h).numeral.wholeValue = digitsValue (c :: cs) := by
    show digitsValue ((c :: cs).filter Char.isDigit) = _
    rw [List.filter_eq_self.2 h]
  have htrimmed : Text.trimmed (String.ofList (c :: cs)).toList = c :: cs := by
    rw [String.toList_ofList]
    exact Text.trimmed_of_not_blank fun d hd => Text.isBlank_of_isDigit (h d hd)
  have habsorbed : (Positional.ofDigits c cs h).absorbed = (digitsValue (c :: cs), 0, []) := by
    rw [← hvalue]
    rfl
  rw [readTyped_plain (hchars.trans htrimmed.symm), readExact_chars, hvalue, habsorbed, if_pos rfl]
  by_cases hbound : digitsValue (c :: cs) < bound
  · rw [if_pos hbound]
    rfl
  · rw [if_neg hbound, make?, dif_neg fun hheld => hbound hheld.1]

/-- A seven with zeros in front. -/
def zeroFilled (zeros : Nat) : String := String.ofList (List.replicate zeros '0' ++ ['7'])

theorem length_zeroFilled (zeros : Nat) : (zeroFilled zeros).toList.length = zeros + 1 := by
  simp [zeroFilled]

theorem isDigit_of_mem_zeroFilled {zeros : Nat} {c : Char}
    (hc : c ∈ List.replicate zeros '0' ++ ['7']) : c.isDigit = true := by
  rcases List.mem_append.1 hc with hzero | hlast
  · rw [List.eq_of_mem_replicate hzero]
    rfl
  · rw [List.mem_singleton.1 hlast]
    rfl

/-- **Zeros in front of an amount count for nothing, however many.** -/
theorem readTyped_zeroFilled (zeros : Nat) : readTyped (zeroFilled zeros) = some (.ofNat 7) := by
  obtain ⟨c, cs, hcs⟩ := List.exists_cons_of_ne_nil
    (show List.replicate zeros '0' ++ ['7'] ≠ [] by simp)
  have hdigits : ∀ d ∈ c :: cs, d.isDigit = true := by
    rw [← hcs]
    exact fun _ => isDigit_of_mem_zeroFilled
  have hvalue : digitsValue (c :: cs) = 7 := by
    rw [← hcs, digitsValue_replicate_append]
    rfl
  rw [zeroFilled, hcs, readTyped_digits hdigits, hvalue]
  rfl

theorem trim_zeroFilled (zeros : Nat) : Text.trim (zeroFilled zeros) = zeroFilled zeros := by
  unfold Text.trim zeroFilled
  rw [String.toList_ofList, Text.trimmed_of_not_blank]
  exact fun _ hd => Text.isBlank_of_isDigit (isDigit_of_mem_zeroFilled hd)

theorem readLiteral_zeroFilled (zeros : Nat) :
    readLiteral (zeroFilled zeros) = some (.ofNat 7) := by
  rw [← trim_zeroFilled]
  exact readLiteral_trim_of_readTyped (readTyped_zeroFilled zeros)

end Decimal

/-! ### Documents -/

namespace Data

theorem length_escapeChar (c : Char) : 1 ≤ (escapeChar c).length ∧ (escapeChar c).length ≤ 6 := by
  rcases Scan.escapeChar_cases c with ⟨e, hlook, -⟩ | ⟨-, hlook⟩ | ⟨hlook, -⟩ <;> simp [hlook]

theorem length_quoted (s : String) :
    s.toList.length ≤ (quoted s).length ∧ (quoted s).length ≤ 6 * s.toList.length + 2 := by
  have hescaped : s.toList.length ≤ (s.toList.flatMap escapeChar).length ∧
      (s.toList.flatMap escapeChar).length ≤ 6 * s.toList.length := by
    induction s.toList with
    | nil => exact ⟨Nat.le_refl 0, Nat.le_refl 0⟩
    | cons c cs ih =>
        have hc := length_escapeChar c
        rw [List.flatMap_cons, List.length_append, List.length_cons]
        omega
  unfold quoted
  simp only [List.length_cons, List.length_append, List.length_nil]
  omega

/-- A record takes no more than its fields, with a colon and a comma for each. -/
theorem length_compactFields_le {fields : List (String × Data)} {n : Nat}
    (h : ∀ f ∈ fields, (quoted f.1).length + (compactChars f.2).length ≤ n) :
    (compactFields fields).length ≤ fields.length * (n + 2) := by
  induction fields with
  | nil => exact Nat.zero_le _
  | cons f fields ih =>
      obtain ⟨k, d⟩ := f
      have hfirst := h (k, d) List.mem_cons_self
      have hrest := ih fun f hf => h f (List.mem_cons_of_mem _ hf)
      cases fields with
      | nil =>
          simp only [compactFields, List.length_append, List.length_cons, List.length_nil]
            at hfirst ⊢
          omega
      | cons next fields =>
          rw [compactFields, List.length_append, List.length_cons, List.length_append,
            List.length_cons, List.length_cons, Nat.succ_mul]
          · dsimp only at hfirst
            omega
          · simp

end Data

namespace RequestBody

/-- A document is at least as long as the amount in it. -/
theorem length_document (amount department : String) (flag : Bool) :
    amount.toList.length ≤ (document amount department flag).toJson.toList.length := by
  have hamount := (Data.length_quoted amount).1
  unfold document Data.toJson
  rw [String.toList_ofList]
  show _ ≤ ('{' :: ((Data.quoted "amount" ++ ':' :: (Data.quoted amount ++ ',' ::
    Data.compactFields [("department", .text department),
      ("requiresManagerApproval", .bool flag)])) ++ ['}'])).length
  simp only [List.length_cons, List.length_append]
  omega

end RequestBody

end InvoiceApproval
