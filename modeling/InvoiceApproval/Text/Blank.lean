/-
Blank characters.

A blank is a character with the Unicode property `White_Space`: the tab and the
line breaks of ASCII, the space, and the wider and narrower spaces of other
scripts.  A zero-width space is not one.  Amounts typed by a person are read
without the blanks around them, and a setting that holds nothing but blanks
counts as not given.
-/
namespace InvoiceApproval.Text

/-- The characters with the property `White_Space`, twenty-five in all. -/
def isBlank (c : Char) : Bool :=
  let n := c.toNat
  (0x09 ≤ n && n ≤ 0x0D) || n == 0x20 || n == 0x85 || n == 0xA0 || n == 0x1680
    || (0x2000 ≤ n && n ≤ 0x200A) || n == 0x2028 || n == 0x2029 || n == 0x202F
    || n == 0x205F || n == 0x3000

/-- Whether a text holds no character but blanks, as the empty text does. -/
def isBlankText (s : String) : Bool :=
  s.toList.all isBlank

/-- A list of characters without the blanks at either end. -/
def trimmed (cs : List Char) : List Char :=
  ((cs.dropWhile isBlank).reverse.dropWhile isBlank).reverse

/-- A text without the blanks at either end. -/
def trim (s : String) : String :=
  String.ofList (trimmed s.toList)

/-- No digit is a blank. -/
theorem isBlank_of_isDigit {c : Char} (h : c.isDigit = true) : isBlank c = false := by
  have hrange : 48 ≤ c.toNat ∧ c.toNat ≤ 57 := by
    simpa [Char.isDigit, UInt32.le_iff_toNat_le] using h
  simp only [isBlank, Bool.or_eq_false_iff, Bool.and_eq_false_iff, decide_eq_false_iff_not,
    beq_eq_false_iff_ne]
  omega

/-- A text without blanks is not cut. -/
theorem trimmed_of_not_blank {cs : List Char} (h : ∀ c ∈ cs, isBlank c = false) :
    trimmed cs = cs := by
  have hkept : ∀ cs : List Char, (∀ c ∈ cs, isBlank c = false) → cs.dropWhile isBlank = cs := by
    intro cs hcs
    cases cs with
    | nil => rfl
    | cons c cs => rw [List.dropWhile_cons_of_neg]; simp [hcs c]
  rw [trimmed, hkept cs h, hkept cs.reverse fun c hc => h c (List.mem_reverse.1 hc),
    List.reverse_reverse]

end InvoiceApproval.Text
