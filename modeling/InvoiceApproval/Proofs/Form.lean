/-
Forms on their way to the service.

A browser writes what was entered byte by byte: letters, digits and four signs stand for
themselves, a space becomes a plus sign, and every other byte becomes a percent sign and
two digits (`writtenByte`).  So none of the marks that hold a form together can come from
what was entered, the form falls apart where it was put together, and each byte is read
back by itself (`pairs_writtenPairs`).

Whatever text is entered, there is a form that holds it (`ofBody?_written`).
-/
import InvoiceApproval.Proofs.Text.Utf8
import InvoiceApproval.Server.Form
import InvoiceApproval.Server.Message

namespace InvoiceApproval

namespace Form

/-! ### One byte -/

/-- A byte that stands for itself in a form: a letter, a digit, or one of four signs. -/
def isPlainByte (b : UInt8) : Bool :=
  (Char.ofNat b.toNat).isAlphanum || b == 0x2A || b == 0x2D || b == 0x2E || b == 0x5F

/-- A digit of base sixteen as a byte. -/
def hexByte (n : Nat) : UInt8 := UInt8.ofNat (if n < 10 then 0x30 + n else 0x37 + n)

/-- A byte as it is written into a form. -/
def writtenByte (b : UInt8) : List UInt8 :=
  if b == 0x20 then [0x2B]
  else if isPlainByte b then [b]
  else [0x25, hexByte (b.toNat / 16), hexByte (b.toNat % 16)]

/-- A byte that holds nothing together and stands for nothing else. -/
def IsOrdinary (b : UInt8) : Prop := b ≠ 0x25 ∧ b ≠ 0x26 ∧ b ≠ 0x2B ∧ b ≠ 0x3D

instance (b : UInt8) : Decidable (IsOrdinary b) := inferInstanceAs (Decidable (_ ∧ _))

theorem forall_byte {p : UInt8 → Prop} (h : ∀ n < 256, p (UInt8.ofNat n)) (b : UInt8) : p b := by
  have hb := h b.toNat (UInt8.toNat_lt b)
  rwa [UInt8.ofNat_toNat] at hb

theorem isOrdinary_hexByte {n : Nat} (h : n < 16) : IsOrdinary (hexByte n) := by
  have hall : ∀ n < 16, IsOrdinary (hexByte n) := by decide
  exact hall n h

theorem digitByte?_hexByte {n : Nat} (h : n < 16) : digitByte? (hexByte n) = some n := by
  have hall : ∀ n < 16, digitByte? (hexByte n) = some n := by decide
  exact hall n h

theorem isOrdinary_of_isPlainByte {b : UInt8} (h : isPlainByte b = true) : IsOrdinary b := by
  have hall : ∀ b : UInt8, isPlainByte b = true → IsOrdinary b :=
    forall_byte (by decide +kernel)
  exact hall b h

/-- A byte is written as a plus sign, as itself, or by its number. -/
theorem writtenByte_cases (b : UInt8) :
    (b = 0x20 ∧ writtenByte b = [0x2B]) ∨ (IsOrdinary b ∧ writtenByte b = [b]) ∨
      writtenByte b = [0x25, hexByte (b.toNat / 16), hexByte (b.toNat % 16)] := by
  unfold writtenByte
  by_cases hspace : b = 0x20
  · exact Or.inl ⟨hspace, by simp [hspace]⟩
  by_cases hplain : isPlainByte b = true
  · exact Or.inr (Or.inl ⟨isOrdinary_of_isPlainByte hplain, by simp [hspace, hplain]⟩)
  · exact Or.inr (Or.inr (by simp [hspace, hplain]))

theorem plusDecoded_cons {b : UInt8} (h : b ≠ 0x2B) (rest : List UInt8) :
    plusDecoded (b :: rest) = b :: plusDecoded rest := by
  simp [plusDecoded, h]

theorem percentDecoded_cons {b : UInt8} (h : b ≠ 0x25) (rest : List UInt8) :
    percentDecoded (b :: rest) = b :: percentDecoded rest := by
  have hb : (b == 0x25) = false := by simpa using h
  match rest with
  | [] => rfl
  | [c] => simp [percentDecoded]
  | c :: d :: rest => simp [percentDecoded, hb]

/-- A byte that is written is read back by itself. -/
theorem decoded_writtenByte (b : UInt8) (rest : List UInt8) :
    percentDecoded (plusDecoded (writtenByte b ++ rest))
      = b :: percentDecoded (plusDecoded rest) := by
  rcases writtenByte_cases b with ⟨rfl, hlook⟩ | ⟨hordinary, hlook⟩ | hlook
  · rw [hlook]
    show percentDecoded (0x20 :: plusDecoded rest) = _
    exact percentDecoded_cons (by decide) _
  · rw [hlook]
    show percentDecoded (plusDecoded (b :: rest)) = _
    rw [plusDecoded_cons hordinary.2.2.1, percentDecoded_cons hordinary.1]
  · have hhigh : b.toNat / 16 < 16 := by
      have := UInt8.toNat_lt b
      omega
    have hlow : b.toNat % 16 < 16 := by omega
    have hvalue : 16 * (b.toNat / 16) + b.toNat % 16 = b.toNat := by omega
    rw [hlook]
    show percentDecoded (plusDecoded (0x25 :: hexByte _ :: hexByte _ :: rest)) = _
    rw [plusDecoded_cons (by decide), plusDecoded_cons (isOrdinary_hexByte hhigh).2.2.1,
      plusDecoded_cons (isOrdinary_hexByte hlow).2.2.1]
    simp [percentDecoded, digitByte?_hexByte hhigh, digitByte?_hexByte hlow, hvalue]

/-! ### One text -/

/-- A text as it is written into a form. -/
def writtenText (s : String) : List UInt8 := (Text.encode s).flatMap writtenByte

theorem decoded_flatMap (bytes : List UInt8) :
    percentDecoded (plusDecoded (bytes.flatMap writtenByte)) = bytes := by
  induction bytes with
  | nil => rfl
  | cons b bytes ih => rw [List.flatMap_cons, decoded_writtenByte, ih]

theorem decodedText_writtenText (s : String) : decodedText (writtenText s) = s := by
  unfold decodedText writtenText Text.decodeLossy
  rw [decoded_flatMap, Text.decode_encode, String.ofList_toList]

theorem length_writtenText (s : String) : s.toList.length ≤ (writtenText s).length := by
  have hbytes : ∀ bytes : List UInt8, bytes.length ≤ (bytes.flatMap writtenByte).length := by
    intro bytes
    induction bytes with
    | nil => exact Nat.le_refl 0
    | cons b bytes ih =>
        have hb : 1 ≤ (writtenByte b).length := by
          rcases writtenByte_cases b with ⟨-, hlook⟩ | ⟨-, hlook⟩ | hlook <;> simp [hlook]
        rw [List.flatMap_cons, List.length_append, List.length_cons]
        omega
  exact Nat.le_trans (Text.length_encode s).1 (hbytes _)

/-- No byte of a written text separates anything. -/
theorem not_separator_of_mem {s : String} {b : UInt8} (h : b ∈ writtenText s) :
    b ≠ 0x26 ∧ b ≠ 0x3D := by
  obtain ⟨c, -, hb⟩ := List.mem_flatMap.1 h
  rcases writtenByte_cases c with ⟨-, hlook⟩ | ⟨hordinary, hlook⟩ | hlook
  · rw [hlook, List.mem_singleton] at hb
    subst hb
    decide
  · rw [hlook, List.mem_singleton] at hb
    subst hb
    exact ⟨hordinary.2.1, hordinary.2.2.2⟩
  · have hhigh := isOrdinary_hexByte (n := c.toNat / 16) (by have := UInt8.toNat_lt c; omega)
    have hlow := isOrdinary_hexByte (n := c.toNat % 16) (by omega)
    rw [hlook] at hb
    rcases List.mem_cons.1 hb with rfl | hb
    · decide
    rcases List.mem_cons.1 hb with rfl | hb
    · exact ⟨hhigh.2.1, hhigh.2.2.2⟩
    · rw [List.mem_singleton.1 hb]
      exact ⟨hlow.2.1, hlow.2.2.2⟩

/-! ### One pair -/

/-- A name and a value as they are written into a form. -/
def writtenPair (pair : String × String) : List UInt8 :=
  writtenText pair.1 ++ 0x3D :: writtenText pair.2

theorem decodedPair_writtenPair (pair : String × String) :
    decodedPair (writtenPair pair) = pair := by
  have hname : ∀ b ∈ writtenText pair.1, (b != 0x3D) = true := fun b hb =>
    bne_iff_ne.2 (not_separator_of_mem hb).2
  unfold decodedPair writtenPair
  rw [List.takeWhile_append_of_pos hname, List.dropWhile_append_of_pos hname]
  simp [decodedText_writtenText]

theorem not_ampersand_of_mem {pair : String × String} {b : UInt8} (h : b ∈ writtenPair pair) :
    b ≠ 0x26 := by
  rcases List.mem_append.1 h with h | h
  · exact (not_separator_of_mem h).1
  rcases List.mem_cons.1 h with rfl | h
  · decide
  · exact (not_separator_of_mem h).1

/-! ### The form -/

/-- Pairs with ampersands between them. -/
def writtenPairs : List (String × String) → List UInt8
  | [] => []
  | [pair] => writtenPair pair
  | pair :: pairs => writtenPair pair ++ 0x26 :: writtenPairs pairs

/-- A pair ends at the first ampersand. -/
theorem splitPairs_append {bytes : List UInt8} (h : ∀ b ∈ bytes, b ≠ 0x26) (rest : List UInt8) :
    splitPairs (bytes ++ 0x26 :: rest) = bytes :: splitPairs rest := by
  induction bytes with
  | nil => simp [splitPairs]
  | cons b bytes ih =>
      have hb : (b == 0x26) = false := by simpa using h b (by simp)
      rw [List.cons_append, splitPairs, hb, ih fun c hc => h c (by simp [hc])]
      rfl

theorem splitPairs_of_not_mem {bytes : List UInt8} (h : ∀ b ∈ bytes, b ≠ 0x26) :
    splitPairs bytes = [bytes] := by
  induction bytes with
  | nil => rfl
  | cons b bytes ih =>
      have hb : (b == 0x26) = false := by simpa using h b (by simp)
      rw [splitPairs, hb, ih fun c hc => h c (by simp [hc])]
      rfl

/-- A form falls apart where it was put together. -/
theorem splitPairs_writtenPairs {pairs : List (String × String)} (hne : pairs ≠ []) :
    splitPairs (writtenPairs pairs) = pairs.map writtenPair := by
  induction pairs with
  | nil => exact absurd rfl hne
  | cons pair pairs ih =>
      have hfirst : ∀ b ∈ writtenPair pair, b ≠ 0x26 := fun b hb => not_ampersand_of_mem hb
      cases pairs with
      | nil => exact splitPairs_of_not_mem hfirst
      | cons next pairs =>
          rw [writtenPairs, splitPairs_append hfirst, ih (by simp)]
          · rfl
          · simp

/-- **The pairs of a form are those that it was written with.** -/
theorem pairs_writtenPairs (list : List (String × String)) :
    pairs (writtenPairs list) = list := by
  unfold pairs
  cases list with
  | nil => rfl
  | cons pair list =>
      have hkept : ∀ bytes ∈ (pair :: list).map writtenPair, (!bytes.isEmpty) = true := by
        intro bytes hbytes
        obtain ⟨p, -, rfl⟩ := List.mem_map.1 hbytes
        simp [writtenPair]
      rw [splitPairs_writtenPairs (by simp), List.filter_eq_self.2 hkept, List.map_map]
      refine (List.map_congr_left ?_).trans (List.map_id _)
      intro p _
      exact decodedPair_writtenPair p

end Form

namespace SubmittedForm

/-- A form as a browser writes it. -/
def written (f : SubmittedForm) : MessageBody where
  bytes := Form.writtenPairs <| [("amount", f.amount), ("department", f.department)] ++
    (f.box.map fun value => ("requires_manager_approval", value)).toList

/-- **Whatever is entered, the form that a browser writes is read as it.** -/
theorem ofBody?_written (f : SubmittedForm) : ofBody? f.written.bytes = some f := by
  unfold ofBody? written
  rw [Form.pairs_writtenPairs]
  obtain ⟨amount, department, box⟩ := f
  cases box <;> rfl

/-- A form is at least as long as the amount in it. -/
theorem length_written (f : SubmittedForm) : f.amount.toList.length ≤ f.written.bytes.length := by
  have hamount := Form.length_writtenText f.amount
  unfold written
  rw [List.cons_append, Form.writtenPairs, Form.writtenPair]
  · simp only [List.length_append, List.length_cons]
    omega
  · simp

end SubmittedForm

end InvoiceApproval
