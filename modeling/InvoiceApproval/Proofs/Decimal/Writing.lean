/-
Numbers in writing.

Whether a reader of amounts is exact can only be asked against something that says what
number a text denotes, and the readers themselves must not be that something.  A
`Writing` is a number as it is put down: a sign or none, marks with a point among them
or none, and an exponent or none.  `chars` is how it looks, and `value` is what it
denotes, by the place of each digit and with no bound on how many there are.

The two directions of the grammar tie this to the readers.  A text that a reader takes
is the look of some writing (`exists_positional`, `exists_scientific`), and of any
writing that looks like a text the parts that a reader cuts it into are known
(`ofChars?_chars`, `ofChars?_scientific`).  So a law about a reader can be stated of
every writing, and it holds of every text.
-/
import InvoiceApproval.Decimal.Reader
import Mathlib

namespace InvoiceApproval

/-! ### The parts of a writing -/

/-- What stands in front of a number. -/
inductive SignMark where
  | absent
  | plus
  | minus
deriving DecidableEq, Repr

namespace SignMark

/-- How a sign looks. -/
def chars : SignMark → List Char
  | absent => []
  | plus => ['+']
  | minus => ['-']

/-- What a sign does to a number. -/
def factor : SignMark → Rat
  | absent | plus => 1
  | minus => -1

end SignMark

/-- The digits among some marks; the separators do not count. -/
def digitsOf (marks : List Char) : List Char := marks.filter Char.isDigit

/-- The number that a row of digits denotes, each digit counting by its place. -/
def placeValue (ds : List Char) : Nat := Nat.ofDigits 10 (ds.map Text.digitValue).reverse

/-- A number written without exponent. -/
structure Positional where
  sign : SignMark
  whole : List Char
  /-- What stands behind the point, if there is a point. -/
  fraction : Option (List Char)
  /-- There are digits and separators, and nothing else. -/
  marks : ∀ c ∈ whole ++ fraction.getD [], c.isDigit = true ∨ c = '_'
  /-- There is a digit before any separator. -/
  begins : ∃ c rest, whole ++ fraction.getD [] = c :: rest ∧ c.isDigit = true

/-- Digits alone are marks. -/
theorem marks_of_all {cs : List Char} (h : cs.all Char.isDigit = true) :
    ∀ c ∈ cs, c.isDigit = true ∨ c = '_' :=
  fun c hc => Or.inl (List.all_eq_true.1 h c hc)

namespace Positional

/-- The marks behind the point. -/
def behind (p : Positional) : List Char := p.fraction.getD []

/-- How a number without exponent looks. -/
def chars (p : Positional) : List Char :=
  p.sign.chars ++ (p.whole ++ match p.fraction with
    | none => []
    | some marks => '.' :: marks)

/-- The number without its sign. -/
def size (p : Positional) : Rat :=
  (placeValue (digitsOf (p.whole ++ p.behind)) : Rat) / 10 ^ (digitsOf p.behind).length

/-- The number that it denotes. -/
def value (p : Positional) : Rat := p.sign.factor * p.size

end Positional

/-- A power of ten behind a number. -/
structure Exponent where
  /-- The letter in front. -/
  mark : Char
  negative : Bool
  /-- Whether a plus sign stands in front of the digits. -/
  plus : Bool
  digits : List Char
  mark_eq : mark = 'e' ∨ mark = 'E'
  digits_ne : digits ≠ []
  all_digits : ∀ c ∈ digits, c.isDigit = true

namespace Exponent

/-- What follows the letter. -/
def behind (x : Exponent) : List Char :=
  (if x.negative then ['-'] else []) ++ ((if x.plus then ['+'] else []) ++ x.digits)

/-- How many places the point moves. -/
def places (x : Exponent) : Nat := placeValue x.digits

/-- The factor that an exponent stands for. -/
def factor (x : Exponent) : Rat := if x.negative then 1 / 10 ^ x.places else 10 ^ x.places

end Exponent

/-- A number in writing. -/
inductive Writing where
  | plain (base : Positional)
  | scientific (base : Positional) (exponent : Exponent)

namespace Writing

/-- The number in front of the exponent, or all of it. -/
def base : Writing → Positional
  | plain p | scientific p _ => p

/-- How a number looks. -/
def chars : Writing → List Char
  | plain p => p.chars
  | scientific p x => p.chars ++ x.mark :: x.behind

/-- The number that a writing denotes. -/
def value : Writing → Rat
  | plain p => p.value
  | scientific p x => p.value * x.factor

end Writing

/-! ### What a reader cuts a writing into -/

/-- No character of a row is a point. -/
private theorem ne_point_of_mark {c : Char} (h : c.isDigit = true ∨ c = '_') :
    (c != '.') = true := by
  rcases h with h | rfl
  · rw [bne_iff_ne]
    rintro rfl
    exact absurd h (by decide)
  · decide

namespace Positional

/-- What stands behind the sign. -/
def unsigned (p : Positional) : List Char :=
  p.whole ++ match p.fraction with
    | none => []
    | some marks => '.' :: marks

theorem mem_whole {p : Positional} {c : Char} (h : c ∈ p.whole) : c.isDigit = true ∨ c = '_' :=
  p.marks c (List.mem_append_left _ h)

theorem mem_behind {p : Positional} {c : Char} (h : c ∈ p.behind) : c.isDigit = true ∨ c = '_' :=
  p.marks c (List.mem_append_right _ h)

/-- Nothing behind the sign is a sign or the letter of an exponent. -/
theorem mem_unsigned {p : Positional} {c : Char} (h : c ∈ p.unsigned) :
    c.isDigit = true ∨ c = '_' ∨ c = '.' := by
  rcases List.mem_append.1 h with hw | hf
  · exact (mem_whole hw).imp_right Or.inl
  · cases hp : p.fraction with
    | none => simp [hp] at hf
    | some marks =>
        simp only [hp, List.mem_cons] at hf
        rcases hf with rfl | hm
        · exact Or.inr (Or.inr rfl)
        · exact (p.marks c (by simp [hp, hm])).imp_right Or.inl

theorem takeWhile_unsigned (p : Positional) : p.unsigned.takeWhile (· != '.') = p.whole := by
  unfold unsigned
  rw [List.takeWhile_append_of_pos fun c hc => ne_point_of_mark (mem_whole hc)]
  cases p.fraction <;> simp

theorem dropWhile_unsigned (p : Positional) :
    (p.unsigned.dropWhile (· != '.')).drop 1 = p.behind := by
  unfold unsigned behind
  rw [List.dropWhile_append_of_pos fun c hc => ne_point_of_mark (mem_whole hc)]
  cases p.fraction <;> simp

theorem splitSign_chars (p : Positional) :
    Numeral.splitSign p.chars = (decide (p.sign = .minus), p.unsigned) := by
  show Numeral.splitSign (p.sign.chars ++ p.unsigned) = _
  cases hs : p.sign with
  | plus => rfl
  | minus => rfl
  | absent =>
      have hsign : ∀ c ∈ p.unsigned, c ≠ '-' ∧ c ≠ '+' := by
        intro c hc
        constructor <;> (rintro rfl; exact absurd (mem_unsigned hc) (by decide))
      show Numeral.splitSign p.unsigned = (false, p.unsigned)
      unfold Numeral.splitSign
      split
      · rename_i rest heq
        exact absurd rfl (hsign '-' (by simp [heq])).1
      · rename_i rest heq
        exact absurd rfl (hsign '+' (by simp [heq])).2
      · rfl

/-- The numeral that a reader makes of a writing. -/
def numeral (p : Positional) : Numeral := ⟨decide (p.sign = .minus), p.whole, p.behind⟩

theorem ofChars?_chars (p : Positional) : Numeral.ofChars? p.chars = some p.numeral := by
  have hmarks : (p.whole ++ p.behind).all Numeral.isMark = true := by
    rw [List.all_eq_true]
    intro c hc
    rcases p.marks c hc with h | h <;> simp [Numeral.isMark, h]
  have hbegins : ((p.whole ++ p.behind).head?.any Char.isDigit) = true := by
    obtain ⟨c, rest, hc, hd⟩ := p.begins
    show ((p.whole ++ p.fraction.getD []).head?.any Char.isDigit) = true
    simp [hc, hd]
  simp only [Numeral.ofChars?, splitSign_chars, takeWhile_unsigned, dropWhile_unsigned, hmarks,
    hbegins, Bool.and_self, if_true]
  rfl

end Positional

/-- What a reader cuts off in front is a sign, or nothing. -/
theorem exists_sign (cs : List Char) :
    ∃ sign : SignMark, cs = sign.chars ++ (Numeral.splitSign cs).2 := by
  unfold Numeral.splitSign
  split
  · exact ⟨.minus, rfl⟩
  · exact ⟨.plus, rfl⟩
  · exact ⟨.absent, rfl⟩

/-- What is left from the first point on is a fraction, or nothing. -/
theorem exists_fraction (cs : List Char) : ∃ fraction : Option (List Char),
    (cs.dropWhile (· != '.')).drop 1 = fraction.getD [] ∧
      cs.dropWhile (· != '.') = match fraction with
        | none => []
        | some marks => '.' :: marks := by
  cases hd : cs.dropWhile (· != '.') with
  | nil => exact ⟨none, rfl, rfl⟩
  | cons c rest =>
      have hc : c = '.' := by
        have hhead := List.head?_dropWhile_not (· != '.') cs
        simpa [hd] using hhead
      exact ⟨some rest, rfl, by rw [hc]⟩

/-- Whatever passes for a numeral is the look of a number without exponent. -/
theorem exists_positional {cs : List Char} {n : Numeral} (h : Numeral.ofChars? cs = some n) :
    ∃ p : Positional, p.chars = cs := by
  obtain ⟨sign, hsign⟩ := exists_sign cs
  set body := (Numeral.splitSign cs).2 with hbody
  obtain ⟨fraction, hfraction, hlook⟩ := exists_fraction body
  set whole := body.takeWhile (· != '.') with hwhole
  have hjoin : whole ++ body.dropWhile (· != '.') = body := List.takeWhile_append_dropWhile
  simp only [Numeral.ofChars?, ← hbody, ← hwhole, hfraction, Option.ite_none_right_eq_some,
    Bool.and_eq_true] at h
  obtain ⟨⟨hmarks, hbegins⟩, -⟩ := h
  have hp : ∃ p : Positional, p.sign = sign ∧ p.whole = whole ∧ p.fraction = fraction := by
    refine ⟨⟨sign, whole, fraction, ?_, ?_⟩, rfl, rfl, rfl⟩
    · intro c hc
      simpa [Numeral.isMark] using List.all_eq_true.1 hmarks c hc
    · cases hm : whole ++ fraction.getD [] with
      | nil => simp [hm] at hbegins
      | cons c rest => exact ⟨c, rest, rfl, by simpa [hm] using hbegins⟩
  obtain ⟨p, hps, hpw, hpf⟩ := hp
  refine ⟨p, ?_⟩
  rw [hsign, ← hjoin, hlook]
  simp only [Positional.chars, hps, hpw, hpf]

/-! ### Exponents -/

theorem tenTo_eq (n : Nat) : Text.tenTo n = 10 ^ n := rfl

theorem digitsValue_cons (c : Char) (ds : List Char) :
    Text.digitsValue (c :: ds) = Text.digitValue c * 10 ^ ds.length + Text.digitsValue ds := by
  have h : Text.digitsValue (c :: ds) = Text.appendDigits (0 * 10 + Text.digitValue c) ds := rfl
  rw [h, Text.appendDigits_eq, tenTo_eq, Nat.zero_mul, Nat.zero_add]

/-- Adding up digit by digit gives what the places say. -/
theorem digitsValue_eq_placeValue (ds : List Char) : Text.digitsValue ds = placeValue ds := by
  induction ds with
  | nil => rfl
  | cons c ds ih =>
      rw [digitsValue_cons, ih]
      unfold placeValue
      rw [List.map_cons, List.reverse_cons, Nat.ofDigits_append, Nat.ofDigits_singleton,
        List.length_reverse, List.length_map, Nat.mul_comm, Nat.add_comm]

/-- A row of digits is read as the number that it denotes. -/
theorem digits?_eq_some_iff {ds : List Char} {n : Nat} :
    Text.digits? ds = some n ↔
      (ds ≠ [] ∧ ∀ c ∈ ds, c.isDigit = true) ∧ Text.digitsValue ds = n := by
  unfold Text.digits?
  simp only [Option.ite_none_right_eq_some, Bool.and_eq_true, Bool.not_eq_true',
    List.isEmpty_eq_false_iff, List.all_eq_true, Option.some.injEq]

namespace Exponent

/-- The plus sign, if there is one, and the digits. -/
def unsigned (x : Exponent) : List Char := (if x.plus then ['+'] else []) ++ x.digits

theorem ne_sign_of_digit {x : Exponent} {c : Char} (h : c ∈ x.digits) : c ≠ '-' ∧ c ≠ '+' := by
  constructor <;> (rintro rfl; exact absurd (x.all_digits _ h) (by decide))

theorem unsigned_ne_minus (x : Exponent) (rest : List Char) : x.unsigned ≠ '-' :: rest := by
  unfold unsigned
  cases x.plus with
  | true => simp
  | false =>
      intro heq
      exact absurd rfl (x.ne_sign_of_digit (c := '-') (by simp_all)).1

theorem unsignedBelow?_unsigned (x : Exponent) (bound : Nat) :
    Text.unsignedBelow? bound x.unsigned = if x.places < bound then some x.places else none := by
  have hdigits : Text.digits? x.digits = some x.places :=
    digits?_eq_some_iff.2 ⟨⟨x.digits_ne, x.all_digits⟩, digitsValue_eq_placeValue _⟩
  have hstrip : Text.unsignedBelow? bound x.unsigned
      = (Text.digits? x.digits).filter (· < bound) := by
    unfold Text.unsignedBelow? unsigned
    cases x.plus with
    | true => rfl
    | false =>
        simp only [Bool.false_eq_true, if_false, List.nil_append]
        split
        · rename_i rest heq
          exact absurd rfl (x.ne_sign_of_digit (c := '+') (by simp [heq])).2
        · rfl
  rw [hstrip, hdigits]
  simp [Option.filter]

/-- What an unsigned number is read from is the look of one. -/
theorem exists_unsigned {bound n : Nat} {cs : List Char}
    (h : Text.unsignedBelow? bound cs = some n) :
    ∃ (plus : Bool) (ds : List Char), cs = (if plus then ['+'] else []) ++ ds ∧ ds ≠ [] ∧
      ∀ c ∈ ds, c.isDigit = true := by
  unfold Text.unsignedBelow? at h
  obtain ⟨hread, -⟩ := Option.filter_eq_some_iff.1 h
  split at hread
  · rename_i rest
    exact ⟨true, rest, rfl, (digits?_eq_some_iff.1 hread).1⟩
  · exact ⟨false, cs, rfl, (digits?_eq_some_iff.1 hread).1⟩

theorem behind_of_negative {x : Exponent} (h : x.negative = true) :
    x.behind = '-' :: x.unsigned := by
  simp [behind, unsigned, h]

theorem behind_of_positive {x : Exponent} (h : x.negative = false) : x.behind = x.unsigned := by
  simp [behind, unsigned, h]

/-- A use of at most twenty-eight places is no matter of the bound of the reader. -/
theorem bind_unsignedBelow? {α : Type} (x : Exponent) (f : Nat → Option α) :
    ((Text.unsignedBelow? UInt32.size x.unsigned).bind fun n => if n ≤ 28 then f n else none)
      = if x.places ≤ 28 then f x.places else none := by
  rw [x.unsignedBelow?_unsigned]
  by_cases h : x.places ≤ 28
  · have hlt : x.places < UInt32.size := Nat.lt_of_le_of_lt h (by decide)
    simp [h, hlt]
  · by_cases hlt : x.places < UInt32.size <;> simp [h, hlt]

end Exponent

/-! ### Writings with an exponent -/

theorem not_isExponentMark_of_mem {p : Positional} {c : Char} (h : c ∈ p.chars) :
    Decimal.isExponentMark c = false := by
  have hmem : c ∈ p.sign.chars ∨ c ∈ p.unsigned := List.mem_append.1 h
  by_contra hmark
  have hc : c = 'e' ∨ c = 'E' := by
    simpa [Decimal.isExponentMark, or_iff_not_imp_left] using hmark
  rcases hmem with hs | hu
  · cases hsign : p.sign <;> rcases hc with rfl | rfl <;> simp [hsign, SignMark.chars] at hs
  · rcases hc with rfl | rfl <;> exact absurd (Positional.mem_unsigned hu) (by decide)

theorem Exponent.isExponentMark_mark (x : Exponent) : Decimal.isExponentMark x.mark = true := by
  rcases x.mark_eq with h | h <;> rw [h] <;> rfl

/-- No numeral has an exponent in it. -/
theorem ofChars?_scientific (p : Positional) (x : Exponent) :
    Numeral.ofChars? (Writing.scientific p x).chars = none := by
  cases h : Numeral.ofChars? (Writing.scientific p x).chars with
  | none => rfl
  | some n =>
      obtain ⟨q, hq⟩ := exists_positional h
      have hmem : x.mark ∈ q.chars := by simp [hq, Writing.chars]
      exact absurd (not_isExponentMark_of_mem hmem) (by simp [x.isExponentMark_mark])

namespace Decimal

/-- Without an exponent there is nothing for the scientific reader. -/
theorem readScientific_plain (down : Decimal → Nat → Option Decimal) (p : Positional) :
    readScientific down p.chars = none := by
  have hnone : p.chars.dropWhile (!isExponentMark ·) = [] := by
    rw [List.dropWhile_eq_nil_iff]
    intro c hc
    simp [not_isExponentMark_of_mem hc]
  simp only [readScientific, hnone]

/-- What stands in front of the mark is the number. -/
theorem takeWhile_scientific (p : Positional) (x : Exponent) :
    (p.chars ++ x.mark :: x.behind).takeWhile (!isExponentMark ·) = p.chars := by
  rw [List.takeWhile_append_of_pos fun c hc => by simp [not_isExponentMark_of_mem hc]]
  simp [x.isExponentMark_mark]

theorem dropWhile_scientific (p : Positional) (x : Exponent) :
    (p.chars ++ x.mark :: x.behind).dropWhile (!isExponentMark ·) = x.mark :: x.behind := by
  rw [List.dropWhile_append_of_pos fun c hc => by simp [not_isExponentMark_of_mem hc]]
  simp [x.isExponentMark_mark]

/-- The scientific reader reads the number in front, and moves its point. -/
theorem readScientific_chars (down : Decimal → Nat → Option Decimal) (p : Positional)
    (x : Exponent) :
    readScientific down (Writing.scientific p x).chars = (readRounded p.chars).bind fun d =>
      if x.places ≤ 28 then
        if x.negative then down d x.places else d.shiftUp x.places
      else none := by
  show readScientific down (p.chars ++ x.mark :: x.behind) = _
  simp only [readScientific, takeWhile_scientific, dropWhile_scientific]
  cases readRounded p.chars with
  | none => rfl
  | some d =>
      simp only [Option.bind_some, bind]
      cases hn : x.negative with
      | true => simp only [Exponent.behind_of_negative hn, x.bind_unsignedBelow?, if_true]
      | false =>
          rw [Exponent.behind_of_positive hn]
          split
          · rename_i ds heq
            exact absurd heq (x.unsigned_ne_minus ds)
          · simp [x.bind_unsignedBelow?]

/-- Whatever the rounding reader takes is the look of a number without exponent. -/
theorem exists_plain_of_rounded {cs : List Char} {d : Decimal} (h : readRounded cs = some d) :
    ∃ p : Positional, p.chars = cs := by
  simp only [readRounded, bind, Option.bind_eq_some_iff] at h
  obtain ⟨n, hn, -⟩ := h
  exact exists_positional hn

/-- Whatever the exact reader takes is, too. -/
theorem exists_plain_of_exact {cs : List Char} {d : Decimal} (h : readExact cs = some d) :
    ∃ p : Positional, p.chars = cs := by
  simp only [readExact, bind, Option.bind_eq_some_iff] at h
  obtain ⟨n, hn, -⟩ := h
  exact exists_positional hn

/-- Whatever the scientific reader takes is the look of a number with an exponent. -/
theorem exists_scientific {down : Decimal → Nat → Option Decimal} {cs : List Char} {d : Decimal}
    (h : readScientific down cs = some d) :
    ∃ (p : Positional) (x : Exponent), (Writing.scientific p x).chars = cs := by
  simp only [readScientific] at h
  split at h
  · simp at h
  · rename_i mark exponent hdrop
    have hmark : mark = 'e' ∨ mark = 'E' := by
      have hhead := List.head?_dropWhile_not (!isExponentMark ·) cs
      rw [hdrop] at hhead
      simpa [isExponentMark, or_iff_not_imp_left] using hhead
    simp only [bind, Option.bind_eq_some_iff] at h
    obtain ⟨b, hb, h⟩ := h
    obtain ⟨p, hp⟩ := exists_plain_of_rounded hb
    have hcs : p.chars ++ mark :: exponent = cs := by
      rw [hp, ← hdrop]
      exact List.takeWhile_append_dropWhile
    have hexponent : ∃ (negative plus : Bool) (ds : List Char),
        exponent = (if negative then ['-'] else []) ++ ((if plus then ['+'] else []) ++ ds) ∧
          ds ≠ [] ∧ ∀ c ∈ ds, c.isDigit = true := by
      split at h
      · obtain ⟨n, hn, -⟩ := Option.bind_eq_some_iff.1 h
        obtain ⟨plus, ds, hds, hlegal⟩ := Exponent.exists_unsigned hn
        exact ⟨true, plus, ds, by simp [hds], hlegal⟩
      · obtain ⟨n, hn, -⟩ := Option.bind_eq_some_iff.1 h
        obtain ⟨plus, ds, hds, hlegal⟩ := Exponent.exists_unsigned hn
        exact ⟨false, plus, ds, by simp [hds], hlegal⟩
    obtain ⟨negative, plus, ds, hlook, hne, hall⟩ := hexponent
    refine ⟨p, ⟨mark, negative, plus, ds, hmark, hne, hall⟩, ?_⟩
    rw [← hcs, hlook]
    rfl

end Decimal

end InvoiceApproval
