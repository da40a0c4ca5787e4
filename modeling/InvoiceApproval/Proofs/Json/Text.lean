/-
Texts between quotes.

A text is written character by character, and each is escaped or not by itself: there
are three ways for it to look (`escapeChar_cases`).  It is read in three passes: up to
the closing quote, cut into units, and put together from them.  Each pass is a law about
one character in each of its looks, and `scanText_quoted` puts the passes together:
whatever is written between quotes is read back, and what follows the closing quote is
left alone.
-/
import InvoiceApproval.Data.JsonReader
import InvoiceApproval.Data.JsonWriter

namespace InvoiceApproval

open Data (escapeChar quoted)

namespace Text

theorem hexDigit_ge {n : Nat} (h : n < 16) : 0x20 ≤ (hexDigit n).toNat := by
  have hall : ∀ n < 16, 0x20 ≤ (hexDigit n).toNat := by decide
  exact hall n h

theorem hexDigit_ne {n : Nat} (h : n < 16) : hexDigit n ≠ '"' ∧ hexDigit n ≠ '\\' := by
  have hall : ∀ n < 16, hexDigit n ≠ '"' ∧ hexDigit n ≠ '\\' := by decide
  exact hall n h

end Text

open Text (hexDigit hexValue?)

namespace Scan

/-! ### How one character looks -/

/-- A character is escaped by a letter or by its number, or it stands for itself. -/
theorem escapeChar_cases (c : Char) :
    (∃ e, escapeChar c = ['\\', e] ∧ shortEscape? e = some c ∧ 0x20 ≤ e.toNat ∧ e ≠ 'u') ∨
      (c.toNat < 0x20 ∧ escapeChar c
        = ['\\', 'u', '0', '0', hexDigit (c.toNat / 16), hexDigit (c.toNat % 16)]) ∨
      (escapeChar c = [c] ∧ c ≠ '"' ∧ c ≠ '\\' ∧ 0x20 ≤ c.toNat) := by
  have hshort : ∀ e d : Char, c = d → escapeChar d = ['\\', e] → shortEscape? e = some d →
      0x20 ≤ e.toNat → e ≠ 'u' →
        ∃ e, escapeChar c = ['\\', e] ∧ shortEscape? e = some c ∧ 0x20 ≤ e.toNat ∧ e ≠ 'u' := by
    rintro e d rfl h₁ h₂ h₃ h₄
    exact ⟨e, h₁, h₂, h₃, h₄⟩
  by_cases hquote : c = '"'
  · exact Or.inl (hshort '"' _ hquote rfl rfl (by decide) (by decide))
  by_cases hslash : c = '\\'
  · exact Or.inl (hshort '\\' _ hslash rfl rfl (by decide) (by decide))
  by_cases hback : c.toNat = 0x08
  · exact Or.inl (hshort 'b' '\x08' (Char.toNat_inj.1 hback) rfl rfl (by decide) (by decide))
  by_cases hfeed : c.toNat = 0x0C
  · exact Or.inl (hshort 'f' '\x0c' (Char.toNat_inj.1 hfeed) rfl rfl (by decide) (by decide))
  by_cases hline : c = '\n'
  · exact Or.inl (hshort 'n' _ hline rfl rfl (by decide) (by decide))
  by_cases hreturn : c = '\r'
  · exact Or.inl (hshort 'r' _ hreturn rfl rfl (by decide) (by decide))
  by_cases htab : c = '\t'
  · exact Or.inl (hshort 't' _ htab rfl rfl (by decide) (by decide))
  refine Or.inr ?_
  unfold escapeChar
  rw [if_neg hquote, if_neg hslash, if_neg hback, if_neg hfeed, if_neg hline, if_neg hreturn,
    if_neg htab]
  by_cases hcontrol : c.toNat < 0x20
  · exact Or.inl ⟨hcontrol, if_pos hcontrol⟩
  · exact Or.inr ⟨if_neg hcontrol, hquote, hslash, Nat.le_of_not_lt hcontrol⟩

/-! ### Up to the closing quote -/

theorem rawText_escape {e : Char} (he : 0x20 ≤ e.toNat) (taken rest : List Char) :
    rawText taken ('\\' :: e :: rest) = rawText (e :: '\\' :: taken) rest := by
  simp [rawText, Nat.not_lt.2 he]

theorem rawText_plain {c : Char} (hquote : c ≠ '"') (hslash : c ≠ '\\') (hc : 0x20 ≤ c.toNat)
    (taken rest : List Char) : rawText taken (c :: rest) = rawText (c :: taken) rest := by
  rw [rawText.eq_def]
  simp [hslash, Nat.not_lt.2 hc]

/-- An escaped character is taken whole. -/
theorem rawText_escapeChar (c : Char) (taken rest : List Char) :
    rawText taken (escapeChar c ++ rest) = rawText ((escapeChar c).reverse ++ taken) rest := by
  rcases escapeChar_cases c with ⟨e, hlook, -, he, -⟩ | ⟨hc, hlook⟩ | ⟨hlook, hquote, hslash, hc⟩
  · rw [hlook]
    exact rawText_escape he taken rest
  · have hhigh : c.toNat / 16 < 16 := by omega
    have hlow : c.toNat % 16 < 16 := by omega
    rw [hlook]
    show rawText taken ('\\' :: 'u' :: '0' :: '0' :: _) = _
    rw [rawText_escape (by decide), rawText_plain (by decide) (by decide) (by decide),
      rawText_plain (by decide) (by decide) (by decide)]
    show rawText _ (_ :: _ :: rest) = _
    rw [rawText_plain (Text.hexDigit_ne hhigh).1 (Text.hexDigit_ne hhigh).2
        (Text.hexDigit_ge hhigh),
      rawText_plain (Text.hexDigit_ne hlow).1 (Text.hexDigit_ne hlow).2 (Text.hexDigit_ge hlow)]
    rfl
  · rw [hlook]
    exact rawText_plain hquote hslash hc taken rest

theorem rawText_flatMap (cs taken rest : List Char) :
    rawText taken (cs.flatMap escapeChar ++ '"' :: rest)
      = some (taken.reverse ++ cs.flatMap escapeChar, rest) := by
  induction cs generalizing taken with
  | nil => simp [rawText]
  | cons c cs ih =>
      rw [List.flatMap_cons, List.append_assoc, rawText_escapeChar, ih]
      simp

/-! ### Units -/

theorem textUnits?_short {e c : Char} (hshort : shortEscape? e = some c) (hu : e ≠ 'u')
    (rest : List Char) :
    textUnits? ('\\' :: e :: rest) = (textUnits? rest).map (.char c :: ·) := by
  rw [textUnits?]
  · rw [hshort]
    cases textUnits? rest <;> rfl
  · intro _ _ _ _ _ h
    exact absurd h hu

theorem textUnits?_number {n : Nat} (hn : n < 0x20) (rest : List Char) :
    textUnits? ('\\' :: 'u' :: '0' :: '0' :: hexDigit (n / 16) :: hexDigit (n % 16) :: rest)
      = (textUnits? rest).map (.char (Char.ofNat n) :: ·) := by
  have hvalue : hexValue? ['0', '0', hexDigit (n / 16), hexDigit (n % 16)] = some n := by
    have hall : ∀ n < 0x20,
        hexValue? ['0', '0', hexDigit (n / 16), hexDigit (n % 16)] = some n := by decide
    exact hall n hn
  have hwhole : isHalf n = false := by
    unfold isHalf
    simp
    omega
  rw [textUnits?, hvalue]
  cases textUnits? rest with
  | none => rfl
  | some units => simp [hwhole]

theorem textUnits?_plain {c : Char} (hslash : c ≠ '\\') (rest : List Char) :
    textUnits? (c :: rest) = (textUnits? rest).map (.char c :: ·) := by
  rw [textUnits?]
  · cases textUnits? rest <;> rfl
  · exact fun _ _ _ _ _ h _ => absurd h hslash
  · exact fun _ _ h _ => absurd h hslash
  · exact fun h _ => absurd h hslash

/-- An escaped character is one unit. -/
theorem textUnits?_escapeChar (c : Char) (rest : List Char) :
    textUnits? (escapeChar c ++ rest) = (textUnits? rest).map (.char c :: ·) := by
  rcases escapeChar_cases c with ⟨e, hlook, hshort, -, hu⟩ | ⟨hc, hlook⟩ | ⟨hlook, -, hslash, -⟩
  · rw [hlook]
    exact textUnits?_short hshort hu rest
  · rw [hlook]
    have hnumber := textUnits?_number hc rest
    rw [Char.ofNat_toNat] at hnumber
    exact hnumber
  · rw [hlook]
    exact textUnits?_plain hslash rest

theorem textUnits?_flatMap (cs : List Char) :
    textUnits? (cs.flatMap escapeChar) = some (cs.map .char) := by
  induction cs with
  | nil => rfl
  | cons c cs ih =>
      rw [List.flatMap_cons, textUnits?_escapeChar, ih]
      rfl

theorem joinHalves?_map (cs : List Char) : joinHalves? (cs.map .char) = some cs := by
  induction cs with
  | nil => rfl
  | cons c cs ih =>
      rw [List.map_cons, joinHalves?, ih]
      rfl

/-! ### The whole text -/

/-- **What is written between quotes is read back.** -/
theorem scanText_quoted (s : String) (rest : List Char) :
    scanText (s.toList.flatMap escapeChar ++ '"' :: rest) = some (some s, rest) := by
  unfold scanText
  rw [rawText_flatMap]
  simp [textUnits?_flatMap, joinHalves?_map]

theorem quoted_append (s : String) (rest : List Char) :
    quoted s ++ rest = '"' :: (s.toList.flatMap escapeChar ++ '"' :: rest) := by
  simp [quoted]

end Scan

end InvoiceApproval
