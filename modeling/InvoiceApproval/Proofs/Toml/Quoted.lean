/-
Texts in double quotes.

A text that is read between double quotes has come from the characters up to a closing quote
(`takeText_quoted`).  It has at most as many characters as stood there.  It has as many only if it
is what stood there, and that is so exactly for texts without quotes, backslashes and control
characters (`Verbatim`).
-/
import InvoiceApproval.Data.Toml.Scalar
import Mathlib.Data.Nat.Init

namespace InvoiceApproval.Toml

/-- A character that stands for itself between double quotes. -/
def Verbatim (c : Char) : Prop := isPlain c = true ∧ c ≠ '"' ∧ c ≠ '\\'

instance (c : Char) : Decidable (Verbatim c) :=
  inferInstanceAs (Decidable (isPlain c = true ∧ c ≠ '"' ∧ c ≠ '\\'))

/-! ### On one line -/

theorem lineText_of_verbatim {cs rest : List Char} (h : ∀ c ∈ cs, Verbatim c) (taken : List Char) :
    lineText taken (cs ++ '"' :: rest) = some (taken.reverse ++ cs, rest) := by
  induction cs generalizing taken with
  | nil => simp [lineText]
  | cons c cs ih =>
      obtain ⟨⟨hplain, hquote, hescape⟩, hcs⟩ := List.forall_mem_cons.1 h
      rw [List.cons_append, lineText, if_pos (by simp [hplain, hescape]), ih hcs]
      · simp
      · exact hquote
      all_goals intros; contradiction

/-- A text is as long as what it has come from only if it is that. -/
structure ReadFrom (taken text used : List Char) : Prop where
  length_le : text.length ≤ taken.length + used.length
  verbatim : text.length = taken.length + used.length →
    text = taken.reverse ++ used ∧ ∀ c ∈ used, Verbatim c

namespace ReadFrom

variable {taken text used : List Char}

/-- A character is taken as it stands. -/
theorem keep {c : Char} (hc : Verbatim c) (h : ReadFrom (c :: taken) text used) :
    ReadFrom taken text (c :: used) where
  length_le := by
    have := h.length_le
    simp only [List.length_cons] at this ⊢
    omega
  verbatim hlength := by
    obtain ⟨htext, hused⟩ := h.verbatim (by simp only [List.length_cons] at hlength ⊢; omega)
    exact ⟨by simpa using htext, List.forall_mem_cons.2 ⟨hc, hused⟩⟩

/-- More characters than one stand for a character. -/
theorem escape {c : Char} (h : ReadFrom (c :: taken) text used) {escaped : List Char}
    (hescaped : 2 ≤ escaped.length) : ReadFrom taken text (escaped ++ used) where
  length_le := by
    have := h.length_le
    simp only [List.length_cons, List.length_append] at this ⊢
    omega
  verbatim hlength := by
    have := h.length_le
    simp only [List.length_cons, List.length_append] at this hlength
    omega

end ReadFrom

theorem lineText_readFrom {taken cs text rest : List Char}
    (h : lineText taken cs = some (text, rest)) :
    ∃ used, cs = used ++ '"' :: rest ∧ ReadFrom taken text used := by
  fun_induction lineText taken cs with
  | case1 => exact nomatch h
  | case2 taken rest' =>
      cases h
      exact ⟨[], rfl, by simp, fun _ => by simp⟩
  | case3 taken a b c d cs ih =>
      obtain ⟨e, he, h⟩ := Option.bind_eq_some_iff.1 h
      obtain ⟨used, rfl, hused⟩ := ih e h
      exact ⟨['\\', 'u', a, b, c, d] ++ used, rfl, hused.escape (by simp)⟩
  | case4 taken a b c d e f g i cs ih =>
      obtain ⟨x, hx, h⟩ := Option.bind_eq_some_iff.1 h
      obtain ⟨used, rfl, hused⟩ := ih x h
      exact ⟨['\\', 'U', a, b, c, d, e, f, g, i] ++ used, rfl, hused.escape (by simp)⟩
  | case5 taken e cs hshort hlong ih =>
      obtain ⟨x, hx, h⟩ := Option.bind_eq_some_iff.1 h
      obtain ⟨used, rfl, hused⟩ := ih x h
      exact ⟨['\\', e] ++ used, rfl, hused.escape (by simp)⟩
  | case6 taken c cs hquote hshort hlong hescape hplain ih =>
      obtain ⟨used, rfl, hused⟩ := ih h
      simp only [Bool.and_eq_true, bne_iff_ne] at hplain
      exact ⟨c :: used, rfl, hused.keep ⟨hplain.1, hquote, hplain.2⟩⟩
  | case7 => exact nomatch h

/-! ### Over several lines -/

/-- A text that has come from characters up to a quote, and is shorter than these by two at
least. -/
def ClosedBehind (taken text cs rest : List Char) : Prop :=
  ∃ used, cs = used ++ '"' :: rest ∧ text.length + 2 ≤ taken.length + used.length

namespace ClosedBehind

variable {taken text cs rest : List Char}

/-- Characters are dropped. -/
theorem drop (h : ClosedBehind taken text cs rest) (dropped : List Char) :
    ClosedBehind taken text (dropped ++ cs) rest := by
  obtain ⟨used, rfl, hlength⟩ := h
  refine ⟨dropped ++ used, (List.append_assoc ..).symm, ?_⟩
  rw [List.length_append]
  omega

/-- Characters stand for one. -/
theorem take {c : Char} (h : ClosedBehind (c :: taken) text cs rest) {stand : List Char}
    (hstand : stand ≠ []) : ClosedBehind taken text (stand ++ cs) rest := by
  obtain ⟨used, rfl, hlength⟩ := h
  refine ⟨stand ++ used, (List.append_assoc ..).symm, ?_⟩
  have := List.length_pos_iff.2 hstand
  rw [List.length_cons] at hlength
  rw [List.length_append]
  omega

end ClosedBehind

theorem blockText_closedBehind {mode : Folding} {taken cs text rest : List Char}
    (h : blockText mode taken cs = some (text, rest)) : ClosedBehind taken text cs rest := by
  fun_induction blockText mode taken cs
  case case1 | case12 | case16 | case18 | case20 | case24 | case27 => exact nomatch h
  -- a character of the text
  case case2 ih | case8 ih | case10 ih | case26 ih => exact (ih h).take (List.cons_ne_nil _ [])
  case case5 ih => exact (ih h).take (List.cons_ne_nil '\r' ['\n'])
  -- a character that is dropped
  case case3 ih | case4 ih | case9 ih | case11 ih => exact (ih h).drop [_]
  case case6 ih | case7 ih | case21 ih | case22 ih => exact (ih h).drop [_, _]
  case case23 ih => exact (ih h).drop ['\\', '\r', '\n']
  -- the closing quotes, with none, one or two of the text before them
  case case13 | case14 | case15 =>
    split at h
    · rename_i hquotes _
      cases hquotes
      cases h
      exact ⟨['"', '"', '"', '"'], rfl, by simp⟩
    · rename_i hquotes _
      cases hquotes
      cases h
      exact ⟨['"', '"', '"'], rfl, by simp⟩
    · cases h
      exact ⟨['"', '"'], rfl, by simp⟩
  -- an escaped character
  case case17 ih =>
    obtain ⟨x, -, h⟩ := Option.bind_eq_some_iff.1 h
    exact (ih x h).take (List.cons_ne_nil '\\' ['u', _, _, _, _])
  case case19 ih =>
    obtain ⟨x, -, h⟩ := Option.bind_eq_some_iff.1 h
    exact (ih x h).take (List.cons_ne_nil '\\' ['U', _, _, _, _, _, _, _, _])
  case case25 ih =>
    obtain ⟨x, -, h⟩ := Option.bind_eq_some_iff.1 h
    exact (ih x h).take (List.cons_ne_nil '\\' [_])

/-! ### Behind a quote -/

theorem exists_skipFirstBreak (cs : List Char) : ∃ line, cs = line ++ skipFirstBreak cs := by
  unfold skipFirstBreak
  split
  · exact ⟨['\n'], rfl⟩
  · exact ⟨['\r', '\n'], rfl⟩
  · exact ⟨[], rfl⟩

/-- A text of which every character stands for itself is read as it is. -/
theorem takeText_of_verbatim {cs rest : List Char} (hne : cs ≠ []) (h : ∀ c ∈ cs, Verbatim c) :
    takeText ('"' :: (cs ++ '"' :: rest)) = some (String.ofList cs, rest) := by
  obtain ⟨c, cs, rfl⟩ := List.exists_cons_of_ne_nil hne
  have hline : lineText [] (c :: cs ++ '"' :: rest) = some (c :: cs, rest) :=
    lineText_of_verbatim h []
  unfold takeText
  split
  · rename_i heq
    have hc : c = '"' := (List.cons.inj (List.cons.inj heq).2).1
    exact absurd hc (h c List.mem_cons_self).2.1
  · rename_i heq
    exact nomatch heq
  · rename_i heq
    cases heq
    rw [hline]
    rfl
  · rename_i heq
    exact nomatch heq
  · rename_i hnone _
    exact absurd rfl (hnone _)

/-- **A text in double quotes has come from the characters up to a quote.** -/
theorem takeText_quoted {cs rest : List Char} {s : String}
    (h : takeText ('"' :: cs) = some (s, rest)) :
    ∃ used, cs = used ++ '"' :: rest ∧ ReadFrom [] s.toList used := by
  unfold takeText at h
  split at h
  · rename_i behind heq
    cases heq
    obtain ⟨⟨text, left⟩, htext, h⟩ := Option.map_eq_some_iff.1 h
    cases h
    obtain ⟨line, hline⟩ := exists_skipFirstBreak behind
    obtain ⟨used, hused, hlength⟩ := blockText_closedBehind htext
    rw [List.length_nil, Nat.zero_add] at hlength
    refine ⟨'"' :: '"' :: (line ++ used), ?_, ?_, ?_⟩
    · rw [hline, hused]
      simp
    · simp only [String.toList_ofList, List.length_cons, List.length_append, List.length_nil]
      omega
    · simp only [String.toList_ofList, List.length_cons, List.length_append, List.length_nil]
      omega
  · rename_i heq
    exact nomatch heq
  · rename_i behind _ heq
    cases heq
    obtain ⟨⟨text, left⟩, htext, h⟩ := Option.map_eq_some_iff.1 h
    cases h
    rw [String.toList_ofList]
    exact lineText_readFrom htext
  · rename_i heq
    exact nomatch heq
  · exact nomatch h

end InvoiceApproval.Toml
