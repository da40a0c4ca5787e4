/-
Documents read back.

A scan takes exactly the document that was written and stops there, whatever follows, as
long as no value could go on with it.  That is one law for values, one for the items of a
list and one for the fields of a record, and the three are proved together, along the
document.  The steps that a scan is given do not matter as soon as there are twice as
many as characters.
-/
import InvoiceApproval.Proofs.Json.Layout

namespace InvoiceApproval

open Data (quoted)

namespace Scan

/-! ### Blanks -/

theorem skipBlanks_append {before : List Char} (h : ∀ c ∈ before, isJsonBlank c = true)
    (cs : List Char) : skipBlanks (before ++ cs) = skipBlanks cs :=
  List.dropWhile_append_of_pos h

theorem skipBlanks_cons {c : Char} (h : isJsonBlank c = false) (cs : List Char) :
    skipBlanks (c :: cs) = c :: cs :=
  List.dropWhile_cons_of_neg (by simp [h])

theorem skipBlanks_skipBlanks (cs : List Char) : skipBlanks (skipBlanks cs) = skipBlanks cs := by
  induction cs with
  | nil => rfl
  | cons c cs ih =>
      by_cases hc : isJsonBlank c = true
      · have hskip : skipBlanks (c :: cs) = skipBlanks cs := List.dropWhile_cons_of_pos hc
        rw [hskip, ih]
      · rw [skipBlanks_cons (by simpa using hc), skipBlanks_cons (by simpa using hc)]

theorem scanValue_skipBlanks (steps : Nat) (cs : List Char) :
    scanValue steps (skipBlanks cs) = scanValue steps cs := by
  cases steps with
  | zero => rfl
  | succ steps => rw [scanValue, scanValue, skipBlanks_skipBlanks]

theorem scanItems_skipBlanks (steps : Nat) (cs : List Char) :
    scanItems steps (skipBlanks cs) = scanItems steps cs := by
  cases steps with
  | zero => rfl
  | succ steps => rw [scanItems, scanItems, scanValue_skipBlanks]

theorem scanFields_skipBlanks (steps : Nat) (cs : List Char) :
    scanFields steps (skipBlanks cs) = scanFields steps cs := by
  cases steps with
  | zero => rfl
  | succ steps => rw [scanFields, scanFields, skipBlanks_skipBlanks]

/-! ### One step -/

theorem scanValue_text (steps : Nat) (s : String) (rest : List Char) :
    scanValue (steps + 1) (quoted s ++ rest) = (.text (some s), some rest) := by
  rw [quoted_append, scanValue, skipBlanks_cons (by decide)]
  simp only [scanText_quoted]

/-- A number begins with a minus sign or with a digit. -/
theorem exists_cons_of_scanNumber {cs literal left : List Char}
    (h : scanNumber cs = some (literal, left)) :
    ∃ c rest, cs = c :: rest ∧ (c = '-' ∨ c.isDigit = true) := by
  cases cs with
  | nil => exact nomatch h
  | cons c rest =>
      refine ⟨c, rest, rfl, ?_⟩
      by_cases hminus : c = '-'
      · exact Or.inl hminus
      · refine Or.inr ?_
        rw [scanNumber_unsigned fun _ heq => hminus (List.cons.inj heq).1] at h
        obtain ⟨part, hpart, -⟩ := Option.bind_eq_some_iff.1 h
        cases hdigit : c.isDigit with
        | true => rfl
        | false => simp [wholePart?, digitRun?, hdigit] at hpart

/-- What a number begins with begins nothing else. -/
theorem first_of_number {c : Char} (h : c = '-' ∨ c.isDigit = true) :
    isJsonBlank c = false ∧ c ≠ '"' ∧ c ≠ '[' ∧ c ≠ '{' := by
  have hmark : ∀ d : Char, d ≠ '-' → d.isDigit = false → c ≠ d := by
    rintro d hd hdigit rfl
    rcases h with h | h
    · exact hd h
    · simp [hdigit] at h
  refine ⟨?_, hmark _ (by decide) (by decide), hmark _ (by decide) (by decide),
    hmark _ (by decide) (by decide)⟩
  simp [isJsonBlank, hmark ' ' (by decide) (by decide), hmark '\n' (by decide) (by decide),
    hmark '\t' (by decide) (by decide), hmark '\r' (by decide) (by decide)]

theorem scanValue_number {steps : Nat} {literal rest : List Char} (hrest : Stops rest)
    (h : scanNumber literal = some (literal, [])) :
    scanValue (steps + 1) (literal ++ rest) = (.number (String.ofList literal), some rest) := by
  obtain ⟨c, tail, hcons, hc⟩ := exists_cons_of_scanNumber h
  have hscan := scanNumber_append hrest h
  rw [hcons] at hscan ⊢
  obtain ⟨hblank, hquote, hlist, hrecord⟩ := first_of_number hc
  rw [List.cons_append] at hscan ⊢
  rw [scanValue, skipBlanks_cons hblank]
  simp only [hc, hscan, if_true, List.nil_append]

theorem scanValue_list {steps : Nat} {cs : List Char} (h : ∀ rest, skipBlanks cs ≠ ']' :: rest) :
    scanValue (steps + 1) ('[' :: cs)
      = (.list (scanItems steps cs).1, (scanItems steps cs).2) := by
  rw [scanValue, skipBlanks_cons (by decide)]
  simp only
  rw [scanItems_skipBlanks]

theorem scanValue_record {steps : Nat} {cs : List Char} (h : ∀ rest, skipBlanks cs ≠ '}' :: rest) :
    scanValue (steps + 1) ('{' :: cs)
      = (.record (scanFields steps cs).1, (scanFields steps cs).2) := by
  rw [scanValue, skipBlanks_cons (by decide)]
  simp only
  rw [scanFields_skipBlanks]

theorem scanItems_last {steps : Nat} {cs rest left : List Char} {v : Scan}
    (hv : scanValue steps cs = (v, some rest)) (hend : skipBlanks rest = ']' :: left) :
    scanItems (steps + 1) cs = ([v], some left) := by
  simp only [scanItems, hv, hend]

theorem scanItems_more {steps : Nat} {cs rest left : List Char} {v : Scan}
    (hv : scanValue steps cs = (v, some rest)) (hcomma : skipBlanks rest = ',' :: left) :
    scanItems (steps + 1) cs = (v :: (scanItems steps left).1, (scanItems steps left).2) := by
  simp only [scanItems, hv, hcomma]

theorem scanFields_last {steps : Nat} {cs tail rest left : List Char} {k : String} {v : Scan}
    (hname : skipBlanks cs = quoted k ++ ':' :: tail) (hv : scanValue steps tail = (v, some rest))
    (hend : skipBlanks rest = '}' :: left) :
    scanFields (steps + 1) cs = ([(some k, v)], some left) := by
  rw [scanFields, hname, quoted_append]
  simp only [scanText_quoted, skipBlanks_cons (show isJsonBlank ':' = false by decide), hv, hend]

theorem scanFields_more {steps : Nat} {cs tail rest left : List Char} {k : String} {v : Scan}
    (hname : skipBlanks cs = quoted k ++ ':' :: tail) (hv : scanValue steps tail = (v, some rest))
    (hcomma : skipBlanks rest = ',' :: left) :
    scanFields (steps + 1) cs
      = ((some k, v) :: (scanFields steps left).1, (scanFields steps left).2) := by
  rw [scanFields, hname, quoted_append]
  simp only [scanText_quoted, skipBlanks_cons (show isJsonBlank ':' = false by decide), hv, hcomma]

end Scan

/-! ### The law -/

namespace Layout

open Scan

variable (l : Layout)

theorem valueChars_cons (depth : Nat) {d : Data} (h : d.Writable) :
    ∃ c tail, l.valueChars depth d = c :: tail ∧ isJsonBlank c = false ∧ c ≠ ']' := by
  cases d with
  | null => exact ⟨_, _, rfl, by decide, by decide⟩
  | bool b => cases b <;> exact ⟨_, _, rfl, by decide, by decide⟩
  | text s => exact ⟨_, _, rfl, by decide, by decide⟩
  | list items => cases items <;> exact ⟨_, _, rfl, by decide, by decide⟩
  | record fields => cases fields <;> exact ⟨_, _, rfl, by decide, by decide⟩
  | number literal =>
      obtain ⟨c, tail, hcons, hc⟩ := exists_cons_of_scanNumber h
      refine ⟨c, tail, hcons, (first_of_number hc).1, ?_⟩
      rintro rfl
      exact absurd hc (by decide)

/-- Items begin with the first of them, and not with a closing bracket. -/
theorem skipBlanks_itemChars_ne (depth : Nat) {d : Data} (h : d.Writable) (ds : List Data)
    (rest : List Char) :
    ∀ left, skipBlanks (l.itemChars depth (d :: ds) ++ rest) ≠ ']' :: left := by
  obtain ⟨c, tail, hcons, hblank, hend⟩ := l.valueChars_cons depth h
  have hfirst : ∃ behind, l.itemChars depth (d :: ds) ++ rest = l.gap depth ++ c :: behind := by
    cases ds with
    | nil => exact ⟨_, by rw [itemChars_one, hcons, List.cons_append]⟩
    | cons d' ds => exact ⟨_, by rw [itemChars_more, hcons, List.cons_append]⟩
  obtain ⟨behind, hbehind⟩ := hfirst
  intro left heq
  rw [hbehind, skipBlanks_append (l.gap_blank depth), skipBlanks_cons hblank] at heq
  exact hend (List.cons.inj heq).1

/-- Fields begin with a quote. -/
theorem skipBlanks_fieldChars_ne (depth : Nat) (k : String) (d : Data) (fs : List (String × Data))
    (rest : List Char) :
    ∀ left, skipBlanks (l.fieldChars depth ((k, d) :: fs) ++ rest) ≠ '}' :: left := by
  have hfirst : ∃ behind, l.fieldChars depth ((k, d) :: fs) ++ rest
      = l.gap depth ++ '"' :: behind := by
    cases fs with
    | nil => exact ⟨_, by rw [fieldChars_one, quoted_append]⟩
    | cons f fs => exact ⟨_, by rw [fieldChars_more, quoted_append]⟩
  obtain ⟨behind, hbehind⟩ := hfirst
  intro left heq
  rw [hbehind, skipBlanks_append (l.gap_blank depth), skipBlanks_cons (by decide)] at heq
  exact absurd (List.cons.inj heq).1 (by decide)

theorem skipBlanks_gap_quoted (depth : Nat) (k : String) (rest : List Char) :
    skipBlanks (l.gap depth ++ (quoted k ++ rest)) = quoted k ++ rest := by
  rw [skipBlanks_append (l.gap_blank depth), quoted_append, skipBlanks_cons (by decide)]

/-- What closes a bracket stops a value, blanks or no blanks in front of it. -/
theorem stops_before {before : List Char} (h : ∀ c ∈ before, isJsonBlank c = true) {c : Char}
    (hc : isStop c = true) (rest : List Char) : Stops (before ++ c :: rest) := by
  cases before with
  | nil => exact stops_cons hc rest
  | cons b before =>
      apply stops_cons
      simp [isStop, h b]

mutual

/-- **A value is read as it was written, and the scan stops behind it.** -/
theorem scanValue_valueChars (depth : Nat) : (d : Data) → d.Writable →
    ∀ {steps : Nat} {before rest : List Char}, (∀ c ∈ before, isJsonBlank c = true) →
      Stops rest → 2 * (l.valueChars depth d).length ≤ steps →
      scanValue steps (before ++ (l.valueChars depth d ++ rest)) = (d.toScan, some rest)
  | d, h, steps, before, rest, hbefore, hrest, hsteps => by
    -- A value has a character, so there is a step to take: two for each character are enough,
    -- one to begin a value with and one to go on behind it.
    obtain ⟨c, tail, hcons, -, -⟩ := l.valueChars_cons depth h
    obtain ⟨steps, rfl⟩ : ∃ n, steps = n + 1 := by
      rw [hcons, List.length_cons] at hsteps
      exact ⟨steps - 1, by omega⟩
    rw [← scanValue_skipBlanks, skipBlanks_append hbefore, scanValue_skipBlanks]
    cases d with
    | null => rfl
    | bool b => cases b <;> rfl
    | text s => exact scanValue_text steps s rest
    | number literal =>
        have hnumber := @scanValue_number steps _ _ hrest h
        rw [String.ofList_toList] at hnumber
        exact hnumber
    | list items =>
        cases items with
        | nil => rfl
        | cons d ds =>
            have hlength := congrArg List.length (l.valueChars_list depth d ds [])
            simp only [List.length_append, List.length_cons, List.length_nil] at hlength
            rw [valueChars_list, scanValue_list (l.skipBlanks_itemChars_ne _ h.1 ds _),
              scanItems_itemChars (depth + 1) (d :: ds) h (by simp) (l.gap_blank depth) (by omega)]
            rfl
    | record fields =>
        cases fields with
        | nil => rfl
        | cons f fs =>
            obtain ⟨k, d⟩ := f
            have hlength := congrArg List.length (l.valueChars_record depth (k, d) fs [])
            simp only [List.length_append, List.length_cons, List.length_nil] at hlength
            rw [valueChars_record, scanValue_record (l.skipBlanks_fieldChars_ne _ k d fs _),
              scanFields_fieldChars (depth + 1) ((k, d) :: fs) h.1 (by simp) (l.gap_blank depth)
                (by omega)]
            rfl

/-- The items of a list are read up to the closing bracket. -/
theorem scanItems_itemChars (depth : Nat) : (ds : List Data) → Data.ItemsWritable ds → ds ≠ [] →
    ∀ {steps : Nat} {before rest : List Char}, (∀ c ∈ before, isJsonBlank c = true) →
      2 * (l.itemChars depth ds).length + 1 ≤ steps →
      scanItems steps (l.itemChars depth ds ++ (before ++ ']' :: rest))
        = (Data.itemScans ds, some rest)
  | [], _, hne, _, _, _, _, _ => absurd rfl hne
  | [d], h, _, steps, before, rest, hbefore, hsteps => by
    obtain ⟨steps, rfl⟩ : ∃ n, steps = n + 1 := ⟨steps - 1, by omega⟩
    have hlength := congrArg List.length (l.itemChars_one depth d [])
    simp only [List.length_append, List.length_nil] at hlength
    rw [itemChars_one]
    have hone := scanValue_valueChars depth d h.1 (l.gap_blank depth)
      (stops_before hbefore (show isStop ']' = true by decide) rest)
      (show 2 * (l.valueChars depth d).length ≤ steps by omega)
    exact scanItems_last hone
      (by rw [skipBlanks_append hbefore, skipBlanks_cons (c := ']') (by decide)])
  | d :: d' :: ds, h, _, steps, before, rest, hbefore, hsteps => by
    obtain ⟨steps, rfl⟩ : ∃ n, steps = n + 1 := ⟨steps - 1, by omega⟩
    have hlength := congrArg List.length (l.itemChars_more depth d d' ds [])
    simp only [List.length_append, List.length_cons, List.length_nil] at hlength
    rw [itemChars_more]
    have hone := fun tail => scanValue_valueChars depth d h.1 (l.gap_blank depth)
      (stops_cons (show isStop ',' = true by decide) tail)
      (show 2 * (l.valueChars depth d).length ≤ steps by omega)
    rw [scanItems_more (hone _) (skipBlanks_cons (by decide) _),
      scanItems_itemChars depth (d' :: ds) h.2 (by simp) hbefore (by omega)]
    rfl

/-- The fields of a record are read up to the closing bracket. -/
theorem scanFields_fieldChars (depth : Nat) : (fs : List (String × Data)) →
    Data.FieldsWritable fs → fs ≠ [] →
    ∀ {steps : Nat} {before rest : List Char}, (∀ c ∈ before, isJsonBlank c = true) →
      2 * (l.fieldChars depth fs).length + 1 ≤ steps →
      scanFields steps (l.fieldChars depth fs ++ (before ++ '}' :: rest))
        = (Data.fieldScans fs, some rest)
  | [], _, hne, _, _, _, _, _ => absurd rfl hne
  | [(k, d)], h, _, steps, before, rest, hbefore, hsteps => by
    obtain ⟨steps, rfl⟩ : ∃ n, steps = n + 1 := ⟨steps - 1, by omega⟩
    have hlength := congrArg List.length (l.fieldChars_one depth k d [])
    simp only [List.length_append, List.length_cons, List.length_nil] at hlength
    rw [fieldChars_one]
    have hone := scanValue_valueChars depth d h.1 l.afterColon_blank
      (stops_before hbefore (show isStop '}' = true by decide) rest)
      (show 2 * (l.valueChars depth d).length ≤ steps by omega)
    exact scanFields_last (l.skipBlanks_gap_quoted depth k _) hone
      (by rw [skipBlanks_append hbefore, skipBlanks_cons (c := '}') (by decide)])
  | (k, d) :: f :: fs, h, _, steps, before, rest, hbefore, hsteps => by
    obtain ⟨steps, rfl⟩ : ∃ n, steps = n + 1 := ⟨steps - 1, by omega⟩
    have hlength := congrArg List.length (l.fieldChars_more depth k d f fs [])
    simp only [List.length_append, List.length_cons, List.length_nil] at hlength
    rw [fieldChars_more]
    have hone := fun tail => scanValue_valueChars depth d h.1 l.afterColon_blank
      (stops_cons (show isStop ',' = true by decide) tail)
      (show 2 * (l.valueChars depth d).length ≤ steps by omega)
    rw [scanFields_more (l.skipBlanks_gap_quoted depth k _) (hone _)
        (skipBlanks_cons (by decide) _),
      scanFields_fieldChars depth (f :: fs) h.2 (by simp) hbefore (by omega)]
    rfl

end

/-- A whole text is scanned to its end. -/
theorem ofChars_valueChars {d : Data} (h : d.Writable) :
    Scan.ofChars (l.valueChars 0 d) = (d.toScan, true) := by
  have hblank : ∀ c ∈ ([] : List Char), isJsonBlank c = true := by simp
  have hscan := l.scanValue_valueChars 0 d h hblank stops_nil
    (show _ ≤ 2 * (l.valueChars 0 d).length + 2 by omega)
  rw [List.nil_append, List.append_nil] at hscan
  unfold ofChars
  rw [hscan]
  rfl

theorem ofJson?_valueChars {d : Data} (h : d.Writable) :
    Data.ofJson? (String.ofList (l.valueChars 0 d)) = some d := by
  unfold Data.ofJson?
  rw [String.toList_ofList, l.ofChars_valueChars h]
  exact d.data?_toScan h

end Layout

namespace Data

/-- **A document that is written on one line is read back.** -/
theorem ofJson?_toJson {d : Data} (h : d.Writable) : ofJson? d.toJson = some d := by
  unfold toJson
  rw [Layout.compactChars_eq 0]
  exact Layout.compact.ofJson?_valueChars h

/-- **A document that is written over several lines is read back.** -/
theorem ofJson?_toIndentedJson {d : Data} (h : d.Writable) :
    ofJson? d.toIndentedJson = some d := by
  unfold toIndentedJson
  rw [Layout.indentedChars_eq]
  exact Layout.indented.ofJson?_valueChars h

end Data

end InvoiceApproval
