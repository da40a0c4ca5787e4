/-
Phrases in a text that has been lower-cased.

A whole table stands between a text and the text in lower case, but a phrase in plain letters is
found in the one exactly if it is found in the other up to the case of its ASCII letters.  Three
things could spoil that.  A letter of another script could become one of ASCII: the Kelvin sign
does, and becomes a `k`.  A letter could become several: the dotted capital I does, and becomes
an `i` with a dot behind it.  And a letter could become one thing or another, after what stands
around it: the capital sigma does, and `Lowers` leaves it open which.

So a phrase must have no `k` in it and not end in an `i`: `Plain`.  All else is one step along the
text, `prefix_append_iff` and `infix_append_iff`, and then an induction.
-/
import InvoiceApproval.Text.Case
import Mathlib

namespace InvoiceApproval.Text

/-! ### One letter -/

/-- What can stand for a character once it is lower-cased, as far as ASCII goes. -/
inductive Image (c : Char) : List Char → Prop
  | ascii : c.toNat < 0x80 → Image c [c.toLower]
  | beyond {d : Char} : 0x80 ≤ c.toNat → 0x80 ≤ d.toNat → Image c [d]
  /-- So the dotted capital I. -/
  | dotted {dot : Char} : 0x80 ≤ c.toNat → 0x80 ≤ dot.toNat → Image c ['i', dot]
  /-- So the Kelvin sign. -/
  | kelvin : 0x80 ≤ c.toNat → Image c ['k']

/-- The small letters of a row are outside ASCII, but for the one of the Kelvin sign, and none of
them is half of a pair. -/
theorem image_of_mem {r : CaseRow} (h : r ∈ caseRows) :
    (0x80 ≤ r.image ∧ r.image + (r.last - r.first) < 0xD800)
      ∨ (0xDFFF < r.image ∧ r.image + (r.last - r.first) < 0x110000)
      ∨ (r.first = 0x212A ∧ r.last = 0x212A ∧ r.image = 0x6B) := by
  have hall : caseRows.all (fun r => decide ((0x80 ≤ r.image ∧ r.image + (r.last - r.first) < 0xD800)
      ∨ (0xDFFF < r.image ∧ r.image + (r.last - r.first) < 0x110000)
      ∨ (r.first = 0x212A ∧ r.last = 0x212A ∧ r.image = 0x6B))) = true := by decide +kernel
  exact of_decide_eq_true (List.all_eq_true.1 hall r h)

theorem image_lowerChar (c : Char) : Image c (lowerChar c) := by
  unfold lowerChar
  by_cases hascii : c.toNat < 0x80
  · rw [if_pos hascii]
    exact .ascii hascii
  rw [if_neg hascii]
  have hbeyond : 0x80 ≤ c.toNat := Nat.le_of_not_lt hascii
  by_cases hdotted : c.toNat = 0x130
  · rw [if_pos hdotted]
    exact .dotted hbeyond (by decide)
  rw [if_neg hdotted]
  cases hrow : caseRows.find? (·.covers c.toNat) with
  | none => exact .beyond hbeyond hbeyond
  | some r =>
      have hcovers : r.first ≤ c.toNat ∧ c.toNat ≤ r.last := by
        have := List.find?_some hrow
        simp only [CaseRow.covers, Bool.and_eq_true, decide_eq_true_eq] at this
        exact this.1
      show Image c [Char.ofNat (r.image + (c.toNat - r.first))]
      rcases image_of_mem (List.mem_of_find?_eq_some hrow) with h | h | ⟨hfirst, hlast, himage⟩
      · refine .beyond hbeyond ?_
        rw [Char.toNat_ofNat, if_pos (Or.inl (by omega))]
        omega
      · refine .beyond hbeyond ?_
        rw [Char.toNat_ofNat, if_pos (Or.inr ⟨by omega, by omega⟩)]
        omega
      · have hsame : r.image + (c.toNat - r.first) = 0x6B := by omega
        rw [hsame]
        exact .kelvin hbeyond

/-- The ASCII letters have their small letters in ASCII, and no other character has. -/
theorem toLower_beyond {c : Char} (h : 0x80 ≤ c.toNat) : c.toLower = c := by
  refine Char.toLower_eq_of_not_isUpper ?_
  simp only [Char.isUpper, UInt32.le_iff_toNat_le, ge_iff_le, decide_eq_true_eq, not_and]
  intro _ hle
  have : c.toNat ≤ 'Z'.toNat := hle
  have : 'Z'.toNat = 90 := rfl
  omega

/-! ### A text -/

/-- A text is another one in lower case.  A capital sigma has two small letters, one for the end
of a word; either may stand for it. -/
inductive Lowers : List Char → List Char → Prop
  | nil : Lowers [] []
  | letter {c : Char} {cs small : List Char} :
    Lowers cs small → Lowers (c :: cs) (lowerChar c ++ small)
  | finalSigma {cs small : List Char} : Lowers cs small → Lowers ('Σ' :: cs) ('ς' :: small)

theorem lowers_lowered (cs : List Char) : Lowers cs (lowered cs) := by
  induction cs with
  | nil => exact .nil
  | cons c cs ih => exact .letter ih

/-- A phrase that no letter of another script can bring about in part. -/
structure Plain (phrase : List Char) : Prop where
  ascii : ∀ c ∈ phrase, c.toNat < 0x80
  /-- The Kelvin sign becomes a `k`. -/
  noK : 'k' ∉ phrase
  /-- The dotted capital I becomes an `i` with a dot behind it. -/
  last : phrase.getLast? ≠ some 'i'

theorem Plain.tail {x : Char} {phrase : List Char} (h : Plain (x :: phrase)) : Plain phrase where
  ascii c hc := h.ascii c (List.mem_cons_of_mem x hc)
  noK hk := h.noK (List.mem_cons_of_mem x hk)
  last hlast := h.last (by rw [List.getLast?_cons, hlast]; rfl)

section

variable {c x : Char} {image small phrase : List Char}

/-- A phrase begins with the small letter of the first character, or it does not begin here. -/
theorem prefix_append_iff (hplain : Plain (x :: phrase)) (himage : Image c image) :
    x :: phrase <+: image ++ small ↔ c.toLower = x ∧ phrase <+: small := by
  have hx : x.toNat < 0x80 := hplain.ascii x List.mem_cons_self
  -- outside ASCII nothing begins the phrase
  have hnot (hbeyond : 0x80 ≤ c.toNat) : ¬ (c.toLower = x ∧ phrase <+: small) := by
    rintro ⟨hlower, -⟩
    rw [toLower_beyond hbeyond] at hlower
    rw [hlower] at hbeyond
    omega
  cases himage with
  | ascii _ =>
      rw [List.singleton_append, List.cons_prefix_cons]
      exact and_congr_left fun _ => eq_comm
  | beyond hbeyond hd =>
      refine iff_of_false ?_ (hnot hbeyond)
      rw [List.singleton_append, List.cons_prefix_cons]
      rintro ⟨rfl, -⟩
      omega
  | @dotted dot hbeyond hdot =>
      refine iff_of_false ?_ (hnot hbeyond)
      rw [List.cons_append, List.cons_prefix_cons]
      rintro ⟨rfl, hphrase⟩
      cases phrase with
      | nil => exact hplain.last rfl
      | cons y phrase =>
          rw [List.singleton_append, List.cons_prefix_cons] at hphrase
          have hy := hplain.tail.ascii y List.mem_cons_self
          rw [hphrase.1] at hy
          omega
  | kelvin hbeyond =>
      refine iff_of_false ?_ (hnot hbeyond)
      rw [List.singleton_append, List.cons_prefix_cons]
      rintro ⟨rfl, -⟩
      exact hplain.noK List.mem_cons_self

/-- A phrase stands at the first character, or behind all that stands for it. -/
theorem infix_append_iff (hplain : Plain (x :: phrase)) (himage : Image c image) :
    x :: phrase <:+: image ++ small ↔ x :: phrase <+: image ++ small ∨ x :: phrase <:+: small := by
  cases himage with
  | ascii _ => exact List.infix_cons_iff
  | beyond _ _ => exact List.infix_cons_iff
  | @dotted dot _ hdot =>
      have hbehind : ¬ x :: phrase <+: dot :: small := by
        rw [List.cons_prefix_cons]
        rintro ⟨rfl, -⟩
        have := hplain.ascii x List.mem_cons_self
        omega
      show x :: phrase <:+: 'i' :: dot :: small ↔ _
      rw [List.infix_cons_iff, List.infix_cons_iff, or_iff_right hbehind]
      rfl
  | kelvin _ => exact List.infix_cons_iff

end

/-- Every character of a text has an image in front of the rest. -/
theorem Lowers.cons_cases {c : Char} {cs small : List Char} (h : Lowers (c :: cs) small) :
    ∃ image rest, small = image ++ rest ∧ Image c image ∧ Lowers cs rest := by
  cases h with
  | letter hrest => exact ⟨lowerChar c, _, rfl, image_lowerChar c, hrest⟩
  | finalSigma hrest => exact ⟨['ς'], _, rfl, .beyond (by decide) (by decide), hrest⟩

theorem Lowers.prefix_iff {phrase : List Char} (hplain : Plain phrase) {cs small : List Char}
    (h : Lowers cs small) :
    phrase <+: small ↔ ∃ front, front <+: cs ∧ front.map Char.toLower = phrase := by
  induction phrase generalizing cs small with
  | nil => exact iff_of_true List.nil_prefix ⟨[], List.nil_prefix, rfl⟩
  | cons x phrase ih =>
      cases cs with
      | nil =>
          cases h
          refine iff_of_false (fun hprefix => ?_) ?_
          · exact absurd (List.prefix_nil.1 hprefix) (List.cons_ne_nil x phrase)
          · rintro ⟨front, hfront, hmap⟩
            rw [List.prefix_nil.1 hfront] at hmap
            exact nomatch hmap
      | cons c cs =>
          obtain ⟨image, rest, rfl, himage, hrest⟩ := h.cons_cases
          rw [prefix_append_iff hplain himage, ih hplain.tail hrest]
          constructor
          · rintro ⟨hx, front, hfront, hmap⟩
            refine ⟨c :: front, List.cons_prefix_cons.2 ⟨rfl, hfront⟩, ?_⟩
            rw [List.map_cons, hx, hmap]
          · rintro ⟨front, hfront, hmap⟩
            cases front with
            | nil => exact nomatch hmap
            | cons d front =>
                obtain ⟨rfl, hbehind⟩ := List.cons_prefix_cons.1 hfront
                obtain ⟨hx, hmap⟩ := List.cons.inj hmap
                exact ⟨hx, front, hbehind, hmap⟩

/-- **Lower case neither hides a plain phrase nor brings one about.** -/
theorem Lowers.infix_iff {phrase : List Char} (hplain : Plain phrase) {cs small : List Char}
    (h : Lowers cs small) :
    phrase <:+: small ↔ ∃ part, part <:+: cs ∧ part.map Char.toLower = phrase := by
  cases phrase with
  | nil => exact iff_of_true List.nil_infix ⟨[], List.nil_infix, rfl⟩
  | cons x phrase =>
      induction cs generalizing small with
      | nil =>
          cases h
          refine iff_of_false (fun hinfix => ?_) ?_
          · exact absurd (List.infix_nil.1 hinfix) (List.cons_ne_nil x phrase)
          · rintro ⟨part, hpart, hmap⟩
            rw [List.infix_nil.1 hpart] at hmap
            exact nomatch hmap
      | cons c cs ih =>
          have hprefix := h.prefix_iff hplain
          obtain ⟨image, rest, rfl, himage, hrest⟩ := h.cons_cases
          rw [infix_append_iff hplain himage, hprefix, ih hrest]
          simp only [List.infix_cons_iff (a := c), or_and_right, exists_or]

/-! ### Phrases up to case -/

/-- A text has a part that is a phrase up to the case of the ASCII letters. -/
def HoldsPhrase (phrase s : String) : Prop :=
  ∃ part : String, part.toList <:+: s.toList ∧ asciiLower part = asciiLower phrase

theorem HoldsPhrase.append {phrase s : String} (h : HoldsPhrase phrase s) (front back : String) :
    HoldsPhrase phrase (front ++ s ++ back) := by
  obtain ⟨part, hpart, hsame⟩ := h
  refine ⟨part, hpart.trans ?_, hsame⟩
  rw [String.toList_append, String.toList_append]
  exact ⟨front.toList, back.toList, rfl⟩

/-- **A phrase in small plain letters is found in lower case exactly if the text holds it.** -/
theorem occursIn_iff_holdsPhrase {phrase s : String} {small : List Char}
    (hplain : Plain phrase.toList) (hsmall : asciiLower phrase = phrase)
    (h : Lowers s.toList small) :
    occursIn phrase.toList small = true ↔ HoldsPhrase phrase s := by
  rw [occursIn_iff_isInfix, h.infix_iff hplain]
  constructor
  · rintro ⟨part, hpart, hmap⟩
    refine ⟨String.ofList part, by rwa [String.toList_ofList], ?_⟩
    rw [hsmall, asciiLower, String.toList_ofList, hmap, String.ofList_toList]
  · rintro ⟨part, hpart, hsame⟩
    refine ⟨part.toList, hpart, ?_⟩
    rw [hsmall] at hsame
    rw [← hsame, asciiLower, String.toList_ofList]

end InvoiceApproval.Text
