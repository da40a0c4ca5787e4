/-
Headers and assignments whose names stand without quotes, and the lines they stand on.

Such a name ends where another character stands, so a header is read up to its bracket
(`takeHeader_bare`) and an assignment up to its value (`takeAssignment_bare`), whatever follows.
A text of lines begins with what its first line says (`takeLines_header`, `takeLines_bare`), and
blanks and line breaks say nothing (`takeLines_blank`, `takeLineEnd_blank`).
-/
import InvoiceApproval.Data.Toml.Reader
import Mathlib.Data.List.Basic

namespace InvoiceApproval.Toml

/-- Characters that may be a name without quotes. -/
structure IsBare (name : List Char) : Prop where
  ne_nil : name ≠ []
  all : ∀ c ∈ name, isKeyChar c = true

theorem isGap_eq_false_of_isKeyChar {c : Char} (h : isKeyChar c = true) : isGap c = false := by
  by_contra hgap
  rw [Bool.not_eq_false, isGap, Bool.or_eq_true, beq_iff_eq, beq_iff_eq] at hgap
  rcases hgap with rfl | rfl
  · exact absurd h (by decide)
  · exact absurd h (by decide)

theorem skipGap_append {gap cs : List Char} (h : ∀ c ∈ gap, isGap c = true) :
    skipGap (gap ++ cs) = skipGap cs :=
  List.dropWhile_append_of_pos h

theorem skipGap_cons {c : Char} {cs : List Char} (h : isGap c = false) :
    skipGap (c :: cs) = c :: cs :=
  List.dropWhile_cons_of_neg (by rw [h]; decide)

section

variable {name gap rest : List Char} {c : Char} (hname : IsBare name)
  (hgap : ∀ c ∈ gap, isGap c = true)
include hname

theorem skipGap_bare : skipGap (name ++ rest) = name ++ rest := by
  obtain ⟨c, cs, rfl⟩ := List.exists_cons_of_ne_nil hname.ne_nil
  exact skipGap_cons (isGap_eq_false_of_isKeyChar (hname.all c List.mem_cons_self))

theorem takeName_bare (hrest : ∀ c ∈ rest.head?, isKeyChar c = false) :
    takeName (name ++ rest) = some (String.ofList name, rest) := by
  have htake : (name ++ rest).takeWhile isKeyChar = name := by
    rw [List.takeWhile_append_of_pos hname.all]
    cases rest with
    | nil => simp
    | cons c rest => simp [hrest c rfl]
  have hdrop : (name ++ rest).dropWhile isKeyChar = rest := by
    rw [List.dropWhile_append_of_pos hname.all]
    cases rest with
    | nil => rfl
    | cons c rest => simp [hrest c rfl]
  obtain ⟨c, cs, rfl⟩ := List.exists_cons_of_ne_nil hname.ne_nil
  have hc := hname.all c List.mem_cons_self
  unfold takeName
  split
  · rename_i heq
    cases heq
    exact absurd hc (by decide)
  · rename_i heq
    cases heq
    exact absurd hc (by decide)
  · rw [htake, hdrop]

include hgap

/-- A key that is one name is read up to what follows it behind blanks. -/
theorem takeKey_bare (hkey : isKeyChar c = false) (hblank : isGap c = false) (hdot : c ≠ '.')
    (steps : Nat) :
    takeKey (steps + 1) (name ++ (gap ++ c :: rest)) = some ([], String.ofList name, c :: rest) := by
  have hhead : ∀ d ∈ (gap ++ c :: rest).head?, isKeyChar d = false := by
    intro d hd
    cases gap with
    | nil =>
        cases hd
        exact hkey
    | cons g gap =>
        cases hd
        by_contra hbare
        rw [Bool.not_eq_false] at hbare
        exact absurd (hgap d List.mem_cons_self)
          (by rw [isGap_eq_false_of_isKeyChar hbare]; decide)
  rw [takeKey, skipGap_bare hname, takeName_bare hname hhead]
  simp only [Option.bind_eq_bind, Option.bind_some, skipGap_append hgap, skipGap_cons hblank]
  split
  · rename_i heq
    cases heq
    exact absurd rfl hdot
  · rfl

/-- An assignment whose key is one name assigns the value behind the equals sign. -/
theorem takeAssignment_bare {behind : List Char} (hbehind : ∀ c ∈ behind, isGap c = true)
    (hrest : skipGap rest = rest) (steps depth : Nat) :
    takeAssignment (steps + 1) depth (name ++ (gap ++ '=' :: (behind ++ rest)))
      = (takeValue steps depth rest).map fun (d, rest) =>
        (⟨[], String.ofList name, d⟩, rest) := by
  have hkey : takeKey (78 + 1) (name ++ (gap ++ '=' :: (behind ++ rest)))
      = some ([], String.ofList name, '=' :: (behind ++ rest)) :=
    takeKey_bare hname hgap (by decide) (by decide) (by decide) 78
  rw [takeAssignment, show keyLimit = 78 + 1 from rfl, hkey]
  simp only [Option.bind_eq_bind, Option.bind_some, skipGap_append hbehind, hrest]
  cases takeValue steps depth rest <;> rfl

end

/-- A header with one name opens the table of that name. -/
theorem takeHeader_bare {name rest : List Char} (hname : IsBare name) :
    takeHeader ('[' :: (name ++ ']' :: '\n' :: rest))
      = some (⟨[], String.ofList name, false, []⟩, rest) := by
  have hkey : takeKey (78 + 1) (name ++ ([] ++ ']' :: '\n' :: rest))
      = some ([], String.ofList name, ']' :: '\n' :: rest) :=
    takeKey_bare hname (List.forall_mem_nil _) (by decide) (by decide) (by decide) 78
  rw [List.nil_append] at hkey
  have hend : takeLineEnd ('\n' :: rest) = some rest := rfl
  unfold takeHeader
  split
  · rename_i heq
    obtain ⟨c, cs, rfl⟩ := List.exists_cons_of_ne_nil hname.ne_nil
    cases heq
    exact absurd (hname.all '[' List.mem_cons_self) (by decide)
  · rename_i heq
    cases heq
    rw [show keyLimit = 78 + 1 from rfl, hkey]
    simp [hend]
  · rename_i hnone
    exact absurd rfl (hnone _)

/-! ### Lines -/

theorem takeLines_header (steps : Nat) (rest : List Char) :
    takeLines (steps + 1) ('[' :: rest) = do
      let (header, rest) ← takeHeader ('[' :: rest)
      let (assignments, sections) ← takeLines steps rest
      return ([], { header with assignments } :: sections) := by
  have hfiller : skipFiller false ('[' :: rest) = '[' :: rest := by simp [skipFiller, isGap]
  rw [takeLines, hfiller]
  rfl

theorem takeLines_bare (steps : Nat) {name rest : List Char} (hname : IsBare name) :
    takeLines (steps + 1) (name ++ rest) = do
      let (a, rest) ← takeAssignment (2 * (name ++ rest).length + 2) 0 (name ++ rest)
      let rest ← takeLineEnd rest
      let (assignments, sections) ← takeLines steps rest
      return (a :: assignments, sections) := by
  obtain ⟨c, cs, rfl⟩ := List.exists_cons_of_ne_nil hname.ne_nil
  have hkey := hname.all c List.mem_cons_self
  have hgap := isGap_eq_false_of_isKeyChar hkey
  have hne : ∀ d, isKeyChar d = false → c ≠ d := by
    rintro d hd rfl
    exact absurd hkey (by rw [hd]; decide)
  have hfiller : skipFiller false (c :: (cs ++ rest)) = c :: (cs ++ rest) := by
    rw [skipFiller]
    · simp [hgap, hne '#' (by decide)]
    · exact hne '\n' (by decide)
    · rintro rest rfl
      exact absurd rfl (hne '\r' (by decide))
  rw [List.cons_append, takeLines, hfiller]
  split
  · rename_i heq
    exact nomatch heq
  · rename_i heq
    cases heq
    exact absurd rfl (hne '[' (by decide))
  · rfl

/-- Blanks and line breaks. -/
def Blank (cs : List Char) : Prop := ∀ c ∈ cs, isGap c = true ∨ c = '\n'

theorem Blank.notMem {c : Char} {cs : List Char} (h : Blank cs) (hgap : isGap c = false)
    (hbreak : c ≠ '\n') : c ∉ cs := by
  intro hc
  rcases h c hc with hblank | rfl
  · exact absurd hblank (by rw [hgap]; decide)
  · exact hbreak rfl

theorem skipFiller_blank {cs : List Char} (h : Blank cs) : skipFiller false cs = [] := by
  induction cs with
  | nil => rfl
  | cons c cs ih =>
      obtain ⟨hc, hcs⟩ := List.forall_mem_cons.1 h
      by_cases hbreak : c = '\n'
      · rw [hbreak, skipFiller, ih hcs]
      · have hgap := hc.resolve_right hbreak
        rw [skipFiller]
        · simp [hgap, ih hcs]
        · exact hbreak
        · rintro rest rfl
          exact absurd hgap (by decide)

theorem takeLines_blank (steps : Nat) {cs : List Char} (h : Blank cs) :
    takeLines (steps + 1) cs = some ([], []) := by
  rw [takeLines, skipFiller_blank h]

theorem takeLineEnd_blank {cs : List Char} (h : Blank cs) :
    ∃ rest, takeLineEnd cs = some rest ∧ Blank rest := by
  have hskip : Blank (skipGap cs) := fun c hc => h c (List.dropWhile_subset _ hc)
  unfold takeLineEnd
  cases hgap : skipGap cs with
  | nil => exact ⟨[], rfl, fun _ h => nomatch h⟩
  | cons c rest =>
      rw [hgap] at hskip
      obtain ⟨hc, hrest⟩ := List.forall_mem_cons.1 hskip
      have hbreak : c = '\n' := by
        refine hc.resolve_left fun hblank => ?_
        have hhead := List.head?_dropWhile_not isGap cs
        rw [show cs.dropWhile isGap = c :: rest from hgap] at hhead
        exact absurd hblank (by rw [show isGap c = false from hhead]; decide)
      subst hbreak
      exact ⟨rest, rfl, hrest⟩

end InvoiceApproval.Toml
