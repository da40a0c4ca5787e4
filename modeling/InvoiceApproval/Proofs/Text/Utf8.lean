/-
Text in bytes and back.

The bytes of a text are those of its characters in turn, one to four for each.  A reader
that meets them passes from one byte to the next with the bits that it has collected, and
what keeps it on the way is that the second byte lies between the bounds that the first
has set: they keep out what is no character, and every character lies inside.  So a text
that is encoded is read back, although the reader takes bytes of any kind.
-/
import InvoiceApproval.Text.Utf8
import Mathlib.Tactic.IntervalCases

namespace InvoiceApproval.Text

/-! ### The bytes of a text -/

theorem toList_loop_eq (bytes : ByteArray) (i : Nat) (taken : List UInt8) :
    ByteArray.toList.loop bytes i taken = taken.reverse ++ bytes.data.toList.drop i := by
  fun_induction ByteArray.toList.loop bytes i taken with
  | case1 i taken hi ih =>
      have hlength : i < bytes.data.toList.length := by simpa using hi
      have hbyte : bytes.get! i = bytes.data.toList[i] := by simp [ByteArray.get!, hi]
      rw [ih, List.reverse_cons, List.append_assoc, List.drop_eq_getElem_cons hlength, hbyte]
      rfl
  | case2 i taken hi =>
      rw [List.drop_eq_nil_of_le (by simpa using Nat.le_of_not_lt hi), List.append_nil]

/-- A text is encoded character by character. -/
theorem encode_eq_flatMap (s : String) : encode s = s.toList.flatMap String.utf8EncodeChar := by
  unfold encode ByteArray.toList
  rw [toList_loop_eq, String.toUTF8_eq_toByteArray, ← String.utf8Encode_toList, List.utf8Encode,
    List.toList_data_toByteArray]
  rfl

/-- A character takes one to four bytes. -/
theorem length_utf8EncodeChar (c : Char) :
    1 ≤ (String.utf8EncodeChar c).length ∧ (String.utf8EncodeChar c).length ≤ 4 := by
  rw [String.length_utf8EncodeChar]
  exact ⟨c.utf8Size_pos, c.utf8Size_le_four⟩

theorem length_encode (s : String) :
    s.toList.length ≤ (encode s).length ∧ (encode s).length ≤ 4 * s.toList.length := by
  rw [encode_eq_flatMap]
  induction s.toList with
  | nil => exact ⟨Nat.le_refl 0, Nat.le_refl 0⟩
  | cons c cs ih =>
      have hc := length_utf8EncodeChar c
      rw [List.flatMap_cons, List.length_append, List.length_cons]
      omega

/-! ### One character -/

variable {mark : Char}

theorem toNat_ofNat {n : Nat} (h : n < 256) : (UInt8.ofNat n).toNat = n := by
  rw [UInt8.toNat_ofNat']
  exact Nat.mod_eq_of_lt h

/-- A byte that goes on with a character which needs more than it. -/
theorem go_more {p : Pending} {n : Nat} (hlow : p.low ≤ n) (hhigh : n ≤ p.high) (hn : n < 256)
    (hmissing : p.missing ≠ 1) (rest : List UInt8) :
    decode.go mark (some p) (UInt8.ofNat n :: rest)
      = decode.go mark (some ⟨p.bits * 64 + (n - 0x80), p.missing - 1, 0x80, 0xBF⟩) rest := by
  simp [decode.go, stepByte, toNat_ofNat hn, hlow, hhigh, hmissing]

/-- The last byte of a character. -/
theorem go_last {p : Pending} {n : Nat} (hlow : p.low ≤ n) (hhigh : n ≤ p.high) (hn : n < 256)
    (hmissing : p.missing = 1) (rest : List UInt8) :
    decode.go mark (some p) (UInt8.ofNat n :: rest)
      = Char.ofNat (p.bits * 64 + (n - 0x80)) :: decode.go mark none rest := by
  simp [decode.go, stepByte, toNat_ofNat hn, hlow, hhigh, hmissing]

/-- The first byte of a character of several. -/
theorem go_lead {n : Nat} {lead : LeadByte}
    (hlead : LeadByte.of? (UInt8.ofNat n) = some lead) (hfollowing : lead.following ≠ 0)
    (rest : List UInt8) :
    decode.go mark none (UInt8.ofNat n :: rest)
      = decode.go mark (some ⟨lead.bits, lead.following, lead.low, lead.high⟩) rest := by
  simp [decode.go, stepByte, beginChar, hlead, hfollowing]

/-- The first byte of two. -/
theorem leadByte_two {n : Nat} (hlow : 2 ≤ n) (hhigh : n < 0x20) :
    LeadByte.of? (UInt8.ofNat (n + 0xC0)) = some ⟨1, n, 0x80, 0xBF⟩ := by
  unfold LeadByte.of?
  rw [toNat_ofNat (by omega)]
  simp only
  rw [if_neg (by omega), if_neg (by omega), if_pos (by omega), Nat.add_sub_cancel]

/-- The first byte of three. -/
theorem leadByte_three {n : Nat} (h : n < 0x10) :
    LeadByte.of? (UInt8.ofNat (n + 0xE0))
      = some ⟨2, n, if n = 0 then 0xA0 else 0x80, if n = 0x0D then 0x9F else 0xBF⟩ := by
  interval_cases n <;> rfl

/-- The first byte of four. -/
theorem leadByte_four {n : Nat} (h : n < 5) :
    LeadByte.of? (UInt8.ofNat (n + 0xF0))
      = some ⟨3, n, if n = 0 then 0x90 else 0x80, if n = 4 then 0x8F else 0xBF⟩ := by
  interval_cases n <;> rfl

theorem valid_toNat (c : Char) : c.toNat < 0xD800 ∨ 0xDFFF < c.toNat ∧ c.toNat < 0x110000 := c.valid

theorem go_one {c : Char} (h : c.toNat ≤ 0x7F) (rest : List UInt8) :
    decode.go mark none (UInt8.ofNat c.toNat :: rest) = c :: decode.go mark none rest := by
  have hlead : LeadByte.of? (UInt8.ofNat c.toNat) = some ⟨0, c.toNat, 0x80, 0xBF⟩ := by
    unfold LeadByte.of?
    rw [toNat_ofNat (by omega)]
    exact if_pos (by omega)
  simp [decode.go, stepByte, beginChar, hlead]

theorem go_two {v : Nat} (hlow : 0x7F < v) (hhigh : v ≤ 0x7FF) (rest : List UInt8) :
    decode.go mark none (UInt8.ofNat (v / 64 % 0x20 + 0xC0) :: UInt8.ofNat (v % 64 + 0x80) :: rest)
      = Char.ofNat v :: decode.go mark none rest := by
  rw [Nat.mod_eq_of_lt (show v / 64 < 0x20 by omega),
    go_lead (leadByte_two (show 2 ≤ v / 64 by omega) (by omega)) (by simp),
    go_last (by simp) (by simp only; omega) (by omega) rfl]
  have hbits : v / 64 * 64 + (v % 64 + 0x80 - 0x80) = v := by omega
  simp only [hbits]

theorem go_three {v : Nat} (hlow : 0x7FF < v) (hhigh : v ≤ 0xFFFF)
    (hvalid : v < 0xD800 ∨ 0xDFFF < v) (rest : List UInt8) :
    decode.go mark none (UInt8.ofNat (v / 4096 % 0x10 + 0xE0) ::
        UInt8.ofNat (v / 64 % 64 + 0x80) :: UInt8.ofNat (v % 64 + 0x80) :: rest)
      = Char.ofNat v :: decode.go mark none rest := by
  rw [Nat.mod_eq_of_lt (show v / 4096 < 0x10 by omega),
    go_lead (leadByte_three (show v / 4096 < 0x10 by omega)) (by simp),
    go_more (by simp only; split <;> omega) (by simp only; split <;> omega) (by omega) (by simp),
    go_last (by simp) (by simp only; omega) (by omega) rfl]
  have hbits : (v / 4096 * 64 + (v / 64 % 64 + 0x80 - 0x80)) * 64 + (v % 64 + 0x80 - 0x80) = v := by
    omega
  simp only [hbits]

theorem go_four {v : Nat} (hlow : 0xFFFF < v) (hhigh : v < 0x110000) (rest : List UInt8) :
    decode.go mark none (UInt8.ofNat (v / 262144 % 0x08 + 0xF0) ::
        UInt8.ofNat (v / 4096 % 64 + 0x80) :: UInt8.ofNat (v / 64 % 64 + 0x80) ::
          UInt8.ofNat (v % 64 + 0x80) :: rest)
      = Char.ofNat v :: decode.go mark none rest := by
  rw [Nat.mod_eq_of_lt (show v / 262144 < 0x08 by omega),
    go_lead (leadByte_four (show v / 262144 < 5 by omega)) (by simp),
    go_more (by simp only; split <;> omega) (by simp only; split <;> omega) (by omega) (by simp),
    go_more (by simp) (by simp only; omega) (by omega) (by simp),
    go_last (by simp) (by simp only; omega) (by omega) rfl]
  have hbits : ((v / 262144 * 64 + (v / 4096 % 64 + 0x80 - 0x80)) * 64
      + (v / 64 % 64 + 0x80 - 0x80)) * 64 + (v % 64 + 0x80 - 0x80) = v := by
    omega
  simp only [hbits]

/-- **A character that is encoded is read back, whatever follows.** -/
theorem go_utf8EncodeChar (c : Char) (rest : List UInt8) :
    decode.go mark none (String.utf8EncodeChar c ++ rest) = c :: decode.go mark none rest := by
  have hvalid := valid_toNat c
  by_cases h1 : c.toNat ≤ 0x7F
  · have hbytes : String.utf8EncodeChar c = [UInt8.ofNat c.toNat] := if_pos h1
    rw [hbytes]
    exact go_one h1 rest
  by_cases h2 : c.toNat ≤ 0x7FF
  · have hbytes : String.utf8EncodeChar c
        = [UInt8.ofNat (c.toNat / 64 % 0x20 + 0xC0), UInt8.ofNat (c.toNat % 64 + 0x80)] :=
      (if_neg h1).trans (if_pos h2)
    have hread := @go_two mark _ (Nat.lt_of_not_le h1) h2 rest
    rw [Char.ofNat_toNat] at hread
    rw [hbytes]
    exact hread
  by_cases h3 : c.toNat ≤ 0xFFFF
  · have hbytes : String.utf8EncodeChar c
        = [UInt8.ofNat (c.toNat / 4096 % 0x10 + 0xE0), UInt8.ofNat (c.toNat / 64 % 64 + 0x80),
          UInt8.ofNat (c.toNat % 64 + 0x80)] :=
      (if_neg h1).trans ((if_neg h2).trans (if_pos h3))
    have hread := @go_three mark _ (Nat.lt_of_not_le h2) h3 (by omega) rest
    rw [Char.ofNat_toNat] at hread
    rw [hbytes]
    exact hread
  · have hbytes : String.utf8EncodeChar c
        = [UInt8.ofNat (c.toNat / 262144 % 0x08 + 0xF0), UInt8.ofNat (c.toNat / 4096 % 64 + 0x80),
          UInt8.ofNat (c.toNat / 64 % 64 + 0x80), UInt8.ofNat (c.toNat % 64 + 0x80)] :=
      (if_neg h1).trans ((if_neg h2).trans (if_neg h3))
    have hread := @go_four mark _ (Nat.lt_of_not_le h3) (by omega) rest
    rw [Char.ofNat_toNat] at hread
    rw [hbytes]
    exact hread

/-- **A text that is encoded is read back, whatever marks what is no character.** -/
theorem decode_encode (mark : Char) (s : String) : decode mark (encode s) = s.toList := by
  rw [encode_eq_flatMap]
  unfold decode
  induction s.toList with
  | nil => rfl
  | cons c cs ih => rw [List.flatMap_cons, go_utf8EncodeChar, ih]

end InvoiceApproval.Text
