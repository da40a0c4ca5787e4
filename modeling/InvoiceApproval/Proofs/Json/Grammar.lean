/-
The grammar of JSON.

What is written goes to readers of all kinds, and a reader of one's own says little about
the others.  So the grammar stands here by itself, with the document that a text denotes:
numbers and texts first, then values with blanks around them.  `Denotes` does not look at the
scan by which documents are read in this library.

Whatever can be written is JSON and denotes what was written, in both layouts.  The argument
follows the document, like the one that reads it back, but it is shorter, since a grammar does
not have to find out where a value ends.
-/
import InvoiceApproval.Proofs.Json.Layout

namespace InvoiceApproval

namespace Json

/-! ### Numbers -/

/-- Digits, at least one. -/
def Digits (cs : List Char) : Prop := cs ≠ [] ∧ ∀ c ∈ cs, c.isDigit = true

/-- The whole part of a number: a zero alone, or digits that begin with another one. -/
inductive Whole : List Char → Prop
  | zero : Whole ['0']
  | digits {c : Char} {cs : List Char} : c ≠ '0' → Digits (c :: cs) → Whole (c :: cs)

/-- The part of a number behind the point, if there is one. -/
inductive Fraction : List Char → Prop
  | absent : Fraction []
  | present {cs : List Char} : Digits cs → Fraction ('.' :: cs)

/-- The exponent of a number, if there is one. -/
inductive Exponent : List Char → Prop
  | absent : Exponent []
  | present {e : Char} {sign cs : List Char} : e = 'e' ∨ e = 'E' → sign ∈ [[], ['+'], ['-']] →
    Digits cs → Exponent (e :: (sign ++ cs))

/-- A number. -/
inductive Number : List Char → Prop
  | parts {sign whole fraction exponent : List Char} : sign ∈ [[], ['-']] → Whole whole →
    Fraction fraction → Exponent exponent → Number (sign ++ whole ++ fraction ++ exponent)

/-! ### Texts -/

/-- The letters that may stand behind a backslash, and what they stand for there. -/
def shortEscapes : List (Char × Char) :=
  [('"', '"'), ('\\', '\\'), ('/', '/'), ('b', '\x08'), ('f', '\x0c'), ('n', '\n'), ('r', '\r'),
    ('t', '\t')]

/-- What stands between the quotes of a text, and the characters of the text. -/
inductive Inside : List Char → List Char → Prop
  | nil : Inside [] []
  /-- A character stands for itself. -/
  | plain {c : Char} {cs text : List Char} : c ≠ '"' → c ≠ '\\' → 0x20 ≤ c.toNat →
    Inside cs text → Inside (c :: cs) (c :: text)
  /-- A letter stands for a character. -/
  | short {e c : Char} {cs text : List Char} : (e, c) ∈ shortEscapes → Inside cs text →
    Inside ('\\' :: e :: cs) (c :: text)
  /-- Four digits of base sixteen are the number of a character. -/
  | code {w x y z : Char} {n : Nat} {cs text : List Char} : Text.hexValue? [w, x, y, z] = some n →
    n.isValidChar → Inside cs text →
    Inside ('\\' :: 'u' :: w :: x :: y :: z :: cs) (Char.ofNat n :: text)
  /-- Eight such digits are the two halves of a character beyond the sixteen-bit numbers. -/
  | halves {s t u v w x y z : Char} {high low : Nat} {cs text : List Char} :
    Text.hexValue? [s, t, u, v] = some high → 0xD800 ≤ high → high < 0xDC00 →
    Text.hexValue? [w, x, y, z] = some low → 0xDC00 ≤ low → low < 0xE000 → Inside cs text →
    Inside ('\\' :: 'u' :: s :: t :: u :: v :: '\\' :: 'u' :: w :: x :: y :: z :: cs)
      (Char.ofNat (0x10000 + (high - 0xD800) * 0x400 + (low - 0xDC00)) :: text)

/-! ### Values -/

/-- Blanks, or nothing. -/
def Blank (cs : List Char) : Prop := ∀ c ∈ cs, c ∈ [' ', '\n', '\r', '\t']

mutual

/-- A value and the document that it denotes. -/
inductive Value : List Char → Data → Prop
  | null : Value ['n', 'u', 'l', 'l'] .null
  | true : Value ['t', 'r', 'u', 'e'] (.bool true)
  | false : Value ['f', 'a', 'l', 's', 'e'] (.bool false)
  | number {cs : List Char} : Number cs → Value cs (.number (String.ofList cs))
  | text {cs text : List Char} : Inside cs text →
    Value ('"' :: (cs ++ ['"'])) (.text (String.ofList text))
  | emptyList {cs : List Char} : Blank cs → Value ('[' :: (cs ++ [']'])) (.list [])
  | list {cs : List Char} {items : List Data} : Elements cs items →
    Value ('[' :: (cs ++ [']'])) (.list items)
  | emptyRecord {cs : List Char} : Blank cs → Value ('{' :: (cs ++ ['}'])) (.record [])
  | record {cs : List Char} {fields : List (String × Data)} : Members cs fields →
    Value ('{' :: (cs ++ ['}'])) (.record fields)

/-- A value with blanks around it. -/
inductive Element : List Char → Data → Prop
  | value {before cs after : List Char} {d : Data} : Blank before → Value cs d → Blank after →
    Element (before ++ (cs ++ after)) d

/-- Values with commas between them. -/
inductive Elements : List Char → List Data → Prop
  | one {cs : List Char} {d : Data} : Element cs d → Elements cs [d]
  | more {cs rest : List Char} {d : Data} {ds : List Data} : Element cs d → Elements rest ds →
    Elements (cs ++ ',' :: rest) (d :: ds)

/-- A name, a colon and a value. -/
inductive Member : List Char → String × Data → Prop
  | named {before cs name after value : List Char} {d : Data} : Blank before → Inside cs name →
    Blank after → Element value d →
    Member (before ++ ('"' :: (cs ++ ['"']) ++ (after ++ ':' :: value))) (String.ofList name, d)

/-- Names with their values and commas between them. -/
inductive Members : List Char → List (String × Data) → Prop
  | one {cs : List Char} {field : String × Data} : Member cs field → Members cs [field]
  | more {cs rest : List Char} {field : String × Data} {fields : List (String × Data)} :
    Member cs field → Members rest fields → Members (cs ++ ',' :: rest) (field :: fields)

end

/-- A text is JSON and denotes a document. -/
def Denotes (s : String) (d : Data) : Prop := Element s.toList d

/-! ### Numbers that can be written -/

open Scan

theorem digits_of_digitRun? {cs ds rest : List Char} (h : digitRun? cs = some (ds, rest)) :
    Digits ds := by
  unfold digitRun? at h
  split at h
  · exact nomatch h
  · rename_i hne
    cases h
    exact ⟨hne, List.all_eq_true.1 List.all_takeWhile⟩

theorem whole_of_wholePart? {cs ds rest : List Char} (h : wholePart? cs = some (ds, rest)) :
    Whole ds := by
  unfold wholePart? at h
  split at h
  · exact nomatch h
  · rename_i hzero
    have hdigits := digits_of_digitRun? h
    cases ds with
    | nil => exact absurd rfl hdigits.1
    | cons c ds =>
        by_cases hc : c = '0'
        · subst hc
          cases ds with
          | nil => exact .zero
          | cons d ds => exact absurd h (hzero d ds rest)
        · exact .digits hc hdigits

theorem fraction_of_fractionPart? {cs ds rest : List Char}
    (h : fractionPart? cs = some (ds, rest)) : Fraction ds := by
  unfold fractionPart? at h
  split at h
  · obtain ⟨⟨run, left⟩, hrun, hds⟩ := Option.map_eq_some_iff.1 h
    cases hds
    exact .present (digits_of_digitRun? hrun)
  · cases h
    exact .absent

theorem exponent_of_map_digitRun? {e : Char} {cs ds rest : List Char} (hmark : e = 'e' ∨ e = 'E')
    (sign : List Char) (hsign : sign ∈ [[], ['+'], ['-']])
    (h : (digitRun? cs).map (fun (ds, rest) => (e :: (sign ++ ds), rest)) = some (ds, rest)) :
    Exponent ds := by
  obtain ⟨⟨run, left⟩, hrun, hds⟩ := Option.map_eq_some_iff.1 h
  cases hds
  exact .present hmark hsign (digits_of_digitRun? hrun)

theorem exponent_of_exponentPart? {cs ds rest : List Char}
    (h : exponentPart? cs = some (ds, rest)) : Exponent ds := by
  cases cs with
  | nil =>
      cases h
      exact .absent
  | cons e cs =>
      by_cases hmark : e = 'e' ∨ e = 'E'
      · rw [exponentPart?_mark hmark] at h
        split at h
        · exact exponent_of_map_digitRun? hmark ['+'] (by simp) h
        · exact exponent_of_map_digitRun? hmark ['-'] (by simp) h
        · exact exponent_of_map_digitRun? hmark [] (by simp) h
      · cases (if_neg hmark).symm.trans h
        exact .absent

theorem number_of_unsignedNumber {sign cs literal rest : List Char} (hsign : sign ∈ [[], ['-']])
    (h : unsignedNumber sign cs = some (literal, rest)) : Number literal := by
  obtain ⟨⟨whole, cs₁⟩, hwhole, h⟩ := Option.bind_eq_some_iff.1 h
  obtain ⟨⟨fraction, cs₂⟩, hfraction, h⟩ := Option.bind_eq_some_iff.1 h
  obtain ⟨⟨exponent, cs₃⟩, hexponent, h⟩ := Option.bind_eq_some_iff.1 h
  cases h
  exact .parts hsign (whole_of_wholePart? hwhole) (fraction_of_fractionPart? hfraction)
    (exponent_of_exponentPart? hexponent)

/-- **A spelling that is scanned as a number is one.** -/
theorem number_of_scanNumber {cs literal rest : List Char}
    (h : scanNumber cs = some (literal, rest)) : Number literal := by
  cases cs with
  | nil => exact nomatch h
  | cons c cs =>
      by_cases hminus : c = '-'
      · subst hminus
        exact number_of_unsignedNumber (by simp) h
      · rw [scanNumber_unsigned fun _ heq => hminus (List.cons.inj heq).1] at h
        exact number_of_unsignedNumber (by simp) h

/-! ### Texts that are written -/

theorem mem_shortEscapes {e c : Char} (h : shortEscape? e = some c) : (e, c) ∈ shortEscapes := by
  unfold shortEscape? at h
  split at h <;> cases h <;> decide

theorem inside_escapeChar (c : Char) {cs text : List Char} (h : Inside cs text) :
    Inside (Data.escapeChar c ++ cs) (c :: text) := by
  rcases escapeChar_cases c with ⟨e, hlook, hshort, -, -⟩ | ⟨hc, hlook⟩ | ⟨hlook, hquote, hslash, hc⟩
  · rw [hlook]
    exact .short (mem_shortEscapes hshort) h
  · have hvalue : ∀ n < 0x20,
        Text.hexValue? ['0', '0', Text.hexDigit (n / 16), Text.hexDigit (n % 16)] = some n := by
      decide
    have hcode := Inside.code (hvalue _ hc) c.valid h
    rw [Char.ofNat_toNat] at hcode
    rw [hlook]
    exact hcode
  · rw [hlook]
    exact .plain hquote hslash hc h

theorem inside_flatMap (cs : List Char) : Inside (cs.flatMap Data.escapeChar) cs := by
  induction cs with
  | nil => exact .nil
  | cons c cs ih => exact inside_escapeChar c ih

/-! ### Documents that are written -/

theorem blank_of_isJsonBlank {cs : List Char} (h : ∀ c ∈ cs, isJsonBlank c = true) : Blank cs := by
  intro c hc
  have hblank := h c hc
  simp only [isJsonBlank, Bool.or_eq_true, beq_iff_eq] at hblank
  rcases hblank with ((rfl | rfl) | rfl) | rfl <;> simp

theorem blank_nil : Blank [] := fun _ h => absurd h List.not_mem_nil

variable (l : Layout)

theorem blank_gap (depth : Nat) : Blank (l.gap depth) := blank_of_isJsonBlank (l.gap_blank depth)

/-- A value in a layout has blanks in front of it, and may have some behind it. -/
theorem element_gap (depth : Nat) {cs after : List Char} {d : Data} (h : Value cs d)
    (hafter : Blank after) : Element (l.gap depth ++ (cs ++ after)) d :=
  .value (blank_gap l depth) h hafter

theorem member_gap (depth : Nat) (k : String) {cs after : List Char} {d : Data} (h : Value cs d)
    (hafter : Blank after) :
    Member (l.gap depth ++ (Data.quoted k ++ ':' :: (l.afterColon ++ (cs ++ after)))) (k, d) := by
  have hmember := Member.named (blank_gap l depth) (inside_flatMap k.toList) blank_nil
    (.value (blank_of_isJsonBlank l.afterColon_blank) h hafter)
  rw [String.ofList_toList] at hmember
  exact hmember

mutual

/-- **A document in a layout is JSON.** -/
theorem value_valueChars (depth : Nat) :
    (d : Data) → d.Writable → Value (l.valueChars depth d) d
  | .null, _ => .null
  | .bool true, _ => .true
  | .bool false, _ => .false
  | .number literal, h => by
    have hnumber := Value.number (number_of_scanNumber h)
    rw [String.ofList_toList] at hnumber
    exact hnumber
  | .text s, _ => by
    have htext := Value.text (inside_flatMap s.toList)
    rw [String.ofList_toList] at htext
    exact htext
  | .list [], _ => .emptyList blank_nil
  | .list (d :: ds), h =>
    .list (elements_itemChars (depth + 1) (d :: ds) h (by simp) (blank_gap l depth))
  | .record [], _ => .emptyRecord blank_nil
  | .record (f :: fs), h =>
    .record (members_fieldChars (depth + 1) (f :: fs) h.1 (by simp) (blank_gap l depth))

theorem elements_itemChars (depth : Nat) : (ds : List Data) → Data.ItemsWritable ds → ds ≠ [] →
    ∀ {after : List Char}, Blank after → Elements (l.itemChars depth ds ++ after) ds
  | [], _, hne, _, _ => absurd rfl hne
  | [d], h, _, after, hafter => by
    rw [Layout.itemChars_one]
    exact .one (element_gap l depth (value_valueChars depth d h.1) hafter)
  | d :: d' :: ds, h, _, after, hafter => by
    have hfirst := element_gap l depth (value_valueChars depth d h.1) blank_nil
    have hmore := Elements.more hfirst (elements_itemChars depth (d' :: ds) h.2 (by simp) hafter)
    rw [Layout.itemChars_more]
    simpa using hmore

theorem members_fieldChars (depth : Nat) : (fs : List (String × Data)) → Data.FieldsWritable fs →
    fs ≠ [] → ∀ {after : List Char}, Blank after → Members (l.fieldChars depth fs ++ after) fs
  | [], _, hne, _, _ => absurd rfl hne
  | [(k, d)], h, _, after, hafter => by
    rw [Layout.fieldChars_one]
    exact .one (member_gap l depth k (value_valueChars depth d h.1) hafter)
  | (k, d) :: f :: fs, h, _, after, hafter => by
    have hfirst := member_gap l depth k (value_valueChars depth d h.1) blank_nil
    have hmore := Members.more hfirst (members_fieldChars depth (f :: fs) h.2 (by simp) hafter)
    rw [Layout.fieldChars_more]
    simpa using hmore

end

theorem denotes_valueChars {d : Data} (h : d.Writable) :
    Denotes (String.ofList (l.valueChars 0 d)) d := by
  have helement := Element.value blank_nil (value_valueChars l 0 d h) blank_nil
  unfold Denotes
  rw [String.toList_ofList]
  simpa using helement

/-- **A document that is written on one line is JSON.** -/
theorem denotes_toJson {d : Data} (h : d.Writable) : Denotes d.toJson d := by
  unfold Data.toJson
  rw [Layout.compactChars_eq 0]
  exact denotes_valueChars Layout.compact h

/-- **A document that is written over several lines is JSON.** -/
theorem denotes_toIndentedJson {d : Data} (h : d.Writable) : Denotes d.toIndentedJson d := by
  unfold Data.toIndentedJson
  rw [Layout.indentedChars_eq]
  exact denotes_valueChars Layout.indented h

end Json

end InvoiceApproval
