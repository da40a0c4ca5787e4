/-
Numbers in a document.

A number has no closing mark: it ends where something else begins.  So a scan that takes
all of a spelling takes the same when a text follows, as long as that text begins with
nothing that a number could go on with (`Stops`).  Everything that may stand behind a
value does: a comma, a closing bracket, or a blank.
-/
import InvoiceApproval.Data.JsonReader

namespace InvoiceApproval

namespace Scan

/-! ### Where a value ends -/

/-- A character that may stand behind a value. -/
def isStop (c : Char) : Bool := c == ',' || c == ']' || c == '}' || isJsonBlank c

/-- What may follow a value: nothing, or something that no value goes on with. -/
def Stops (rest : List Char) : Prop := ∀ c ∈ rest.head?, isStop c = true

theorem stops_nil : Stops [] := by simp [Stops]

theorem stops_cons {c : Char} (h : isStop c = true) (rest : List Char) : Stops (c :: rest) := by
  simpa [Stops] using h

theorem Stops.ne_cons {rest : List Char} (h : Stops rest) {c : Char} (hc : isStop c = false) :
    ∀ left, rest ≠ c :: left := by
  rintro left rfl
  exact absurd (h c rfl) (by simp [hc])

theorem not_isDigit_of_isStop {c : Char} (h : isStop c = true) : c.isDigit = false := by
  simp only [isStop, isJsonBlank, Bool.or_eq_true, beq_iff_eq] at h
  rcases h with ((rfl | rfl) | rfl) | ((rfl | rfl) | rfl) | rfl <;> decide

/-! ### Reading on -/

theorem takeWhile_append_stops {cs rest : List Char} (h : Stops rest) :
    (cs ++ rest).takeWhile Char.isDigit = cs.takeWhile Char.isDigit := by
  induction cs with
  | nil =>
      cases rest with
      | nil => rfl
      | cons c rest => simp [not_isDigit_of_isStop (h c rfl)]
  | cons c cs ih =>
      rw [List.cons_append, List.takeWhile_cons, List.takeWhile_cons, ih]

theorem dropWhile_append_stops {cs rest : List Char} (h : Stops rest) :
    (cs ++ rest).dropWhile Char.isDigit = cs.dropWhile Char.isDigit ++ rest := by
  induction cs with
  | nil =>
      cases rest with
      | nil => rfl
      | cons c rest => simp [not_isDigit_of_isStop (h c rfl)]
  | cons c cs ih =>
      rw [List.cons_append, List.dropWhile_cons, List.dropWhile_cons, ih]
      split <;> rfl

/-- Digits are run through up to what is none. -/
theorem digitRun?_digits {ds rest : List Char} (hne : ds ≠ [])
    (hdigits : ∀ c ∈ ds, c.isDigit = true) (hrest : ∀ c ∈ rest.head?, c.isDigit = false) :
    digitRun? (ds ++ rest) = some (ds, rest) := by
  have htake : (ds ++ rest).takeWhile Char.isDigit = ds := by
    rw [List.takeWhile_append_of_pos hdigits]
    cases rest with
    | nil => simp
    | cons c rest => simp [hrest c rfl]
  have hdrop : (ds ++ rest).dropWhile Char.isDigit = rest := by
    rw [List.dropWhile_append_of_pos hdigits]
    cases rest with
    | nil => rfl
    | cons c rest => simp [hrest c rfl]
  unfold digitRun?
  rw [htake, hdrop]
  cases ds with
  | nil => exact absurd rfl hne
  | cons c ds => rfl

theorem digitRun?_append {cs ds left rest : List Char} (h : Stops rest)
    (hrun : digitRun? cs = some (ds, left)) : digitRun? (cs ++ rest) = some (ds, left ++ rest) := by
  unfold digitRun? at hrun ⊢
  rw [takeWhile_append_stops h, dropWhile_append_stops h]
  split at hrun
  · exact nomatch hrun
  · cases hrun
    rfl

theorem wholePart?_append {cs ds left rest : List Char} (h : Stops rest)
    (hpart : wholePart? cs = some (ds, left)) :
    wholePart? (cs ++ rest) = some (ds, left ++ rest) := by
  unfold wholePart? at hpart ⊢
  split at hpart
  · exact nomatch hpart
  · rename_i hzero
    rw [digitRun?_append h hpart]
    split
    · rename_i heq
      cases heq
      exact absurd hpart (hzero _ _ _)
    · rfl

/-- Digits are read on behind whatever stands in front of them. -/
theorem map_digitRun?_append (front : List Char) {cs ds left rest : List Char} (h : Stops rest)
    (hrun : (digitRun? cs).map (fun (ds, rest) => (front ++ ds, rest)) = some (ds, left)) :
    (digitRun? (cs ++ rest)).map (fun (ds, rest) => (front ++ ds, rest))
      = some (ds, left ++ rest) := by
  obtain ⟨⟨run, left⟩, hrun, hds⟩ := Option.map_eq_some_iff.1 hrun
  cases hds
  rw [digitRun?_append h hrun]
  rfl

theorem fractionPart?_other {cs : List Char} (h : ∀ rest, cs ≠ '.' :: rest) :
    fractionPart? cs = some ([], cs) := by
  rw [fractionPart?]
  exact h

theorem fractionPart?_append {cs ds left rest : List Char} (h : Stops rest)
    (hpart : fractionPart? cs = some (ds, left)) :
    fractionPart? (cs ++ rest) = some (ds, left ++ rest) := by
  cases cs with
  | nil =>
      cases hpart
      exact fractionPart?_other (h.ne_cons rfl)
  | cons c cs =>
      by_cases hpoint : c = '.'
      · subst hpoint
        exact map_digitRun?_append ['.'] h hpart
      · have hother : ∀ rest, c :: cs ≠ '.' :: rest := fun _ heq => hpoint (List.cons.inj heq).1
        rw [fractionPart?_other hother] at hpart
        cases hpart
        exact fractionPart?_other fun _ heq => hpoint (List.cons.inj heq).1

theorem exponentPart?_mark {e : Char} (hmark : e = 'e' ∨ e = 'E') (cs : List Char) :
    exponentPart? (e :: cs) = match cs with
      | '+' :: rest => (digitRun? rest).map fun (ds, rest) => (e :: '+' :: ds, rest)
      | '-' :: rest => (digitRun? rest).map fun (ds, rest) => (e :: '-' :: ds, rest)
      | rest => (digitRun? rest).map fun (ds, rest) => (e :: ds, rest) :=
  if_pos hmark

theorem exponentPart?_append {cs ds left rest : List Char} (h : Stops rest)
    (hpart : exponentPart? cs = some (ds, left)) :
    exponentPart? (cs ++ rest) = some (ds, left ++ rest) := by
  cases cs with
  | nil =>
      cases hpart
      cases rest with
      | nil => rfl
      | cons c rest =>
          have hmark : ¬ (c = 'e' ∨ c = 'E') := by
            rintro (rfl | rfl) <;> exact absurd (h _ rfl) (by decide)
          exact if_neg hmark
  | cons e cs =>
      by_cases hmark : e = 'e' ∨ e = 'E'
      · rw [exponentPart?_mark hmark] at hpart
        rw [List.cons_append, exponentPart?_mark hmark]
        split at hpart
        · exact map_digitRun?_append [e, '+'] h hpart
        · exact map_digitRun?_append [e, '-'] h hpart
        · rename_i hplus hminus
          have hsame := map_digitRun?_append [e] h hpart
          cases cs with
          | nil => exact absurd hpart (by simp [digitRun?])
          | cons c cs =>
              split
              · rename_i heq
                exact absurd (congrArg (· :: cs) (List.cons.inj heq).1) (hplus cs)
              · rename_i heq
                exact absurd (congrArg (· :: cs) (List.cons.inj heq).1) (hminus cs)
              · exact hsame
      · have hunmarked : ∀ tail, exponentPart? (e :: tail) = some ([], e :: tail) :=
          fun _ => if_neg hmark
        rw [hunmarked] at hpart
        cases hpart
        exact hunmarked _

/-- The parts of a number behind its sign. -/
def unsignedNumber (sign cs : List Char) : Option (List Char × List Char) := do
  let (whole, cs) ← wholePart? cs
  let (fraction, cs) ← fractionPart? cs
  let (exponent, cs) ← exponentPart? cs
  return (sign ++ whole ++ fraction ++ exponent, cs)

theorem unsignedNumber_append {sign cs literal left rest : List Char} (h : Stops rest)
    (hscan : unsignedNumber sign cs = some (literal, left)) :
    unsignedNumber sign (cs ++ rest) = some (literal, left ++ rest) := by
  obtain ⟨⟨whole, cs₁⟩, hwhole, hscan⟩ := Option.bind_eq_some_iff.1 hscan
  obtain ⟨⟨fraction, cs₂⟩, hfraction, hscan⟩ := Option.bind_eq_some_iff.1 hscan
  obtain ⟨⟨exponent, cs₃⟩, hexponent, hscan⟩ := Option.bind_eq_some_iff.1 hscan
  cases hscan
  unfold unsignedNumber
  simp [wholePart?_append h hwhole, fractionPart?_append h hfraction,
    exponentPart?_append h hexponent]

theorem scanNumber_minus (cs : List Char) : scanNumber ('-' :: cs) = unsignedNumber ['-'] cs := rfl

theorem scanNumber_unsigned {cs : List Char} (h : ∀ rest, cs ≠ '-' :: rest) :
    scanNumber cs = unsignedNumber [] cs := by
  unfold scanNumber
  split
  rename_i heq
  split at heq
  · exact absurd rfl (h _)
  · cases heq
    rfl

/-- **A number ends where something else begins.** -/
theorem scanNumber_append {cs literal left rest : List Char} (h : Stops rest)
    (hscan : scanNumber cs = some (literal, left)) :
    scanNumber (cs ++ rest) = some (literal, left ++ rest) := by
  cases cs with
  | nil => exact nomatch hscan
  | cons c cs =>
      by_cases hminus : c = '-'
      · subst hminus
        rw [scanNumber_minus] at hscan
        exact unsignedNumber_append h hscan
      · have hne : ∀ tail rest, c :: tail ≠ '-' :: rest :=
          fun _ _ heq => hminus (List.cons.inj heq).1
        rw [scanNumber_unsigned (hne cs)] at hscan
        rw [List.cons_append, scanNumber_unsigned (hne _)]
        exact unsignedNumber_append h hscan

end Scan

end InvoiceApproval
