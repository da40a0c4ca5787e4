/-
A text with placeholders is read once, from left to right.

The scan is told here in two halves that know nothing of each other.  `Splits` says what a text
is made of, without a look at any variable: characters that stand for themselves, and
placeholders, each of which runs to the first closing brace.  `pour` puts the pieces together
again, with the value of its variable in the place of each placeholder, and looks at nothing that
it puts in.  The scan does the one after the other: `fill_eq_pour`.

So the value of a variable is never taken for a placeholder, whatever stands in it.  And a text
may be cut anywhere but between a dollar sign and the brace behind it: the two parts are filled
on their own (`Splits.append`, `pour_append`).
-/
import InvoiceApproval.Proofs.Settings.Interpolation

namespace InvoiceApproval

namespace Interpolation

variable {value? : String → Option String}

/-! ### The pieces of a text -/

/-- What a text is made of. -/
inductive Piece where
  /-- A character that stands for itself. -/
  | literal (c : Char)
  /-- A placeholder for the variable of this name. -/
  | placeholder (name : String)

/-- How a piece is written. -/
def Piece.chars : Piece → List Char
  | literal c => [c]
  | placeholder name => '$' :: '{' :: (name.toList ++ ['}'])

/-- The pieces of a text, taken from the left.  If the last placeholder has no closing brace,
what stands behind its opening is left over. -/
inductive Splits : List Char → List Piece → Option (List Char) → Prop
  | done : Splits [] [] none
  | literal {c : Char} {rest : List Char} {pieces : List Piece} {left : Option (List Char)} :
    ¬ ['$', '{'] <+: c :: rest → Splits rest pieces left →
    Splits (c :: rest) (.literal c :: pieces) left
  | placeholder {name : String} {rest : List Char} {pieces : List Piece}
    {left : Option (List Char)} :
    '}' ∉ name.toList → Splits rest pieces left →
    Splits ('$' :: '{' :: (name.toList ++ '}' :: rest)) (.placeholder name :: pieces) left
  | unclosed {rest : List Char} : '}' ∉ rest → Splits ('$' :: '{' :: rest) [] (some rest)

/-- The text that splits into these pieces. -/
def textOf (pieces : List Piece) (left : Option (List Char)) : List Char :=
  pieces.flatMap Piece.chars ++ (left.map fun rest => '$' :: '{' :: rest).getD []

/-- Of two names that end at the first closing brace neither is longer. -/
theorem eq_of_closed {name name' rest rest' : List Char} (hname : '}' ∉ name) (hname' : '}' ∉ name')
    (h : name ++ '}' :: rest = name' ++ '}' :: rest') : name = name' ∧ rest = rest' := by
  induction name generalizing name' with
  | nil =>
      cases name' with
      | nil => exact ⟨rfl, (List.cons.inj h).2⟩
      | cons c name' =>
          rw [(List.cons.inj h).1] at hname'
          exact absurd List.mem_cons_self hname'
  | cons c name ih =>
      cases name' with
      | nil =>
          rw [(List.cons.inj h).1] at hname
          exact absurd List.mem_cons_self hname
      | cons d name' =>
          rw [List.mem_cons, not_or] at hname hname'
          obtain ⟨rfl, htails⟩ := List.cons.inj h
          obtain ⟨rfl, rfl⟩ := ih hname.2 hname'.2 htails
          exact ⟨rfl, rfl⟩

/-- Without a closing brace there is no name that ends at one. -/
theorem ne_of_unclosed {name rest behind : List Char} (h : '}' ∉ rest) :
    name ++ '}' :: behind ≠ rest := by
  rintro rfl
  exact h (List.mem_append_right name List.mem_cons_self)

/-- Every text has pieces. -/
theorem exists_splits (cs : List Char) : ∃ pieces left, Splits cs pieces left := by
  induction hlength : cs.length using Nat.strongRecOn generalizing cs with
  | _ n ih =>
      cases cs with
      | nil => exact ⟨[], none, .done⟩
      | cons c rest =>
          have hrest : rest.length < n := by
            rw [← hlength]
            exact Nat.lt_succ_self _
          by_cases hopen : ['$', '{'] <+: c :: rest
          · obtain ⟨behind, hbehind⟩ := hopen
            obtain ⟨rfl, rfl⟩ : '$' = c ∧ '{' :: behind = rest := List.cons.inj hbehind
            by_cases hclosed : '}' ∈ behind
            · obtain ⟨name, after, rfl, hname⟩ := List.eq_append_cons_of_mem hclosed
              have hafter : after.length < n := by
                rw [List.length_cons, List.length_append, List.length_cons] at hrest
                omega
              obtain ⟨pieces, left, hsplits⟩ := ih after.length hafter after rfl
              rw [← String.toList_ofList (l := name)] at hname ⊢
              exact ⟨.placeholder (String.ofList name) :: pieces, left, .placeholder hname hsplits⟩
            · exact ⟨[], some behind, .unclosed hclosed⟩
          · obtain ⟨pieces, left, hsplits⟩ := ih rest.length hrest rest rfl
            exact ⟨.literal c :: pieces, left, .literal hopen hsplits⟩

namespace Splits

variable {cs : List Char} {pieces : List Piece} {left : Option (List Char)}

/-- A text has its pieces in one way only. -/
theorem unique (h : Splits cs pieces left) :
    ∀ {pieces' : List Piece} {left' : Option (List Char)}, Splits cs pieces' left' →
      pieces' = pieces ∧ left' = left := by
  induction h with
  | done =>
      intro pieces' left' h'
      cases h'
      exact ⟨rfl, rfl⟩
  | literal hplain _ ih =>
      intro pieces' left' h'
      cases h' with
      | literal _ hrest =>
          obtain ⟨rfl, rfl⟩ := ih hrest
          exact ⟨rfl, rfl⟩
      | placeholder _ _ => exact absurd ⟨_, rfl⟩ hplain
      | unclosed _ => exact absurd ⟨_, rfl⟩ hplain
  | @placeholder name rest _ _ hname _ ih =>
      intro pieces' left' h'
      generalize hcs : '$' :: '{' :: (name.toList ++ '}' :: rest) = cs at h'
      cases h' with
      | done => exact nomatch hcs
      | literal hplain _ => exact absurd ⟨_, hcs⟩ hplain
      | placeholder hname' hrest =>
          injection hcs with _ hcs
          injection hcs with _ hcs
          obtain ⟨hsame, rfl⟩ := eq_of_closed hname hname' hcs
          obtain rfl := String.toList_inj.1 hsame
          obtain ⟨rfl, rfl⟩ := ih hrest
          exact ⟨rfl, rfl⟩
      | unclosed hopen =>
          injection hcs with _ hcs
          injection hcs with _ hcs
          exact absurd hcs (ne_of_unclosed hopen)
  | @unclosed rest hopen =>
      intro pieces' left' h'
      generalize hcs : '$' :: '{' :: rest = cs at h'
      cases h' with
      | done => exact nomatch hcs
      | literal hplain _ => exact absurd ⟨_, hcs⟩ hplain
      | placeholder _ _ =>
          injection hcs with _ hcs
          injection hcs with _ hcs
          exact absurd hcs.symm (ne_of_unclosed hopen)
      | unclosed _ =>
          injection hcs with _ hcs
          injection hcs with _ hcs
          exact ⟨rfl, congrArg some hcs.symm⟩

/-- Nothing of a text is lost in its pieces. -/
theorem eq_textOf (h : Splits cs pieces left) : cs = textOf pieces left := by
  unfold textOf
  induction h with
  | done => rfl
  | literal _ _ ih =>
      rw [List.flatMap_cons, List.append_assoc, ← ih]
      rfl
  | placeholder _ _ ih =>
      rw [List.flatMap_cons, List.append_assoc, ← ih]
      simp [Piece.chars]
  | unclosed _ => rfl

/-- **Where a text may be cut.**  The pieces of two texts are the pieces of both together, if the
first does not end on a dollar sign that would open a placeholder with the second. -/
theorem append (h : Splits cs pieces none) {more : List Char} {pieces' : List Piece}
    (hcut : pieces.getLast? = some (.literal '$') → more.head? ≠ some '{')
    (h' : Splits more pieces' left) : Splits (cs ++ more) (pieces ++ pieces') left := by
  generalize hclosed : (none : Option (List Char)) = closed at h
  induction h with
  | done => exact h'
  | @literal c rest pieces _ hplain hrest ih =>
      refine .literal ?_ (ih ?_ hclosed)
      · -- a dollar sign could meet its brace only across the cut
        rintro ⟨behind, hopen⟩
        injection hopen with hdollar hopen
        cases rest with
        | nil =>
            cases hrest
            have hbrace : more = '{' :: behind := hopen.symm
            refine hcut (by rw [← hdollar]; rfl) ?_
            rw [hbrace]
            rfl
        | cons d rest =>
            injection hopen with hbrace _
            exact hplain ⟨rest, by rw [hdollar, hbrace]; rfl⟩
      · intro hlast
        exact hcut (by rw [List.getLast?_cons, hlast]; rfl)
  | @placeholder name rest pieces _ hname _ ih =>
      have hcut' : pieces.getLast? = some (.literal '$') → more.head? ≠ some '{' := fun hlast =>
        hcut (by rw [List.getLast?_cons, hlast]; rfl)
      have hsplits := Splits.placeholder hname (ih hcut' hclosed)
      simpa using hsplits
  | unclosed _ => exact nomatch hclosed

end Splits

/-! ### Putting the pieces together -/

/-- Puts pieces together, with values in the place of the placeholders.  The first placeholder
whose variable is not set ends it, and so does one without a closing brace, which can only be the
last. -/
def pour (value? : String → Option String) (left : Option (List Char)) :
    List Piece → Except PlaceholderError (List Char)
  | [] => if left.isSome then .error .unclosed else .ok []
  | .literal c :: pieces => before [c] (pour value? left pieces)
  | .placeholder name :: pieces =>
    match value? name with
    | some value => before value.toList (pour value? left pieces)
    | none => .error (.unset name)

theorem fill_unclosed {rest taken : List Char} (h : '}' ∉ rest) :
    fill value? (some taken) rest = .error .unclosed := by
  induction rest generalizing taken with
  | nil => rfl
  | cons c rest ih =>
      rw [List.mem_cons, not_or] at h
      rw [fill]
      · exact ih h.2
      · rintro rfl
        exact absurd rfl h.1

/-- **The scan takes a text apart and puts it together again.** -/
theorem fill_eq_pour {cs : List Char} {pieces : List Piece} {left : Option (List Char)}
    (h : Splits cs pieces left) : fill value? none cs = pour value? left pieces := by
  induction h with
  | done => rfl
  | literal hplain _ ih =>
      rw [fill, ih]
      · rfl
      · rintro behind rfl rfl
        exact hplain ⟨behind, rfl⟩
  | @placeholder name rest _ _ hname _ ih =>
      rw [fill, fill_name hname, List.append_nil, valueOf_reverse, ih, pour]
      cases value? name <;> rfl
  | unclosed hopen =>
      rw [fill, fill_unclosed hopen]
      rfl

/-! ### What comes of it -/

/-- What stands in the place of a piece. -/
def Piece.filled (value? : String → Option String) : Piece → List Char
  | literal c => [c]
  | placeholder name => ((value? name).map String.toList).getD []

/-- Every placeholder among the pieces is for a variable that is set. -/
def AllSet (value? : String → Option String) (pieces : List Piece) : Prop :=
  ∀ name, .placeholder name ∈ pieces → (value? name).isSome

theorem allSet_nil : AllSet value? [] := fun _ h => absurd h List.not_mem_nil

theorem allSet_literal {c : Char} {pieces : List Piece} :
    AllSet value? (.literal c :: pieces) ↔ AllSet value? pieces := by
  simp [AllSet]

theorem allSet_placeholder {name : String} {pieces : List Piece} :
    AllSet value? (.placeholder name :: pieces) ↔ (value? name).isSome ∧ AllSet value? pieces := by
  simp [AllSet]

theorem before_eq_ok_iff {front out : List Char} {filled : Except PlaceholderError (List Char)} :
    before front filled = .ok out ↔ ∃ rest, filled = .ok rest ∧ out = front ++ rest := by
  cases filled <;> simp [before, Except.map, eq_comm]

theorem before_eq_error_iff {front : List Char} {e : PlaceholderError}
    {filled : Except PlaceholderError (List Char)} :
    before front filled = .error e ↔ filled = .error e := by
  cases filled <;> simp [before, Except.map]

theorem before_append (front back : List Char) (filled : Except PlaceholderError (List Char)) :
    before (front ++ back) filled = before front (before back filled) := by
  cases filled <;> simp [before, Except.map]

variable {left : Option (List Char)}

theorem pour_eq_ok_iff {pieces : List Piece} {out : List Char} :
    pour value? left pieces = .ok out
      ↔ left = none ∧ AllSet value? pieces ∧ out = pieces.flatMap (Piece.filled value?) := by
  induction pieces generalizing out with
  | nil => cases left <;> simp [pour, allSet_nil, eq_comm]
  | cons piece pieces ih =>
      cases piece with
      | literal c =>
          rw [pour, before_eq_ok_iff, allSet_literal, List.flatMap_cons]
          simp only [ih]
          grind [Piece.filled]
      | placeholder name =>
          rw [pour, allSet_placeholder, List.flatMap_cons]
          cases hvalue : value? name with
          | none => simp
          | some value =>
              simp only [before_eq_ok_iff, ih]
              grind [Piece.filled]

theorem pour_eq_unset_iff {pieces : List Piece} {name : String} :
    pour value? left pieces = .error (.unset name)
      ↔ ∃ front back, pieces = front ++ .placeholder name :: back ∧ AllSet value? front ∧
          value? name = none := by
  induction pieces with
  | nil => cases left <;> simp [pour]
  | cons piece pieces ih =>
      constructor
      · intro h
        cases piece with
        | literal c =>
            rw [pour, before_eq_error_iff] at h
            obtain ⟨front, back, rfl, hset, hnone⟩ := ih.1 h
            exact ⟨.literal c :: front, back, rfl, allSet_literal.2 hset, hnone⟩
        | placeholder other =>
            rw [pour] at h
            cases hvalue : value? other with
            | none =>
                simp only [hvalue, Except.error.injEq, PlaceholderError.unset.injEq] at h
                subst h
                exact ⟨[], pieces, rfl, allSet_nil, hvalue⟩
            | some value =>
                simp only [hvalue, before_eq_error_iff] at h
                obtain ⟨front, back, rfl, hset, hnone⟩ := ih.1 h
                exact ⟨.placeholder other :: front, back, rfl,
                  allSet_placeholder.2 ⟨by rw [hvalue]; rfl, hset⟩, hnone⟩
      · rintro ⟨front, back, hpieces, hset, hnone⟩
        cases front with
        | nil =>
            injection hpieces with hpiece _
            rw [hpiece, pour, hnone]
        | cons first front =>
            injection hpieces with hpiece hpieces
            subst hpiece
            cases piece with
            | literal c =>
                rw [pour, before_eq_error_iff]
                exact ih.2 ⟨front, back, hpieces, allSet_literal.1 hset, hnone⟩
            | placeholder other =>
                obtain ⟨hother, hset⟩ := allSet_placeholder.1 hset
                obtain ⟨value, hvalue⟩ := Option.isSome_iff_exists.1 hother
                simp only [pour, hvalue, before_eq_error_iff]
                exact ih.2 ⟨front, back, hpieces, hset, hnone⟩

theorem pour_eq_unclosed_iff {pieces : List Piece} :
    pour value? left pieces = .error .unclosed ↔ left.isSome ∧ AllSet value? pieces := by
  induction pieces with
  | nil => cases left <;> simp [pour, allSet_nil]
  | cons piece pieces ih =>
      cases piece with
      | literal c => rw [pour, before_eq_error_iff, ih, allSet_literal]
      | placeholder name =>
          rw [pour, allSet_placeholder]
          cases hvalue : value? name with
          | none => simp
          | some value => simp [before_eq_error_iff, ih]

/-- Two rows of pieces are put together one after the other. -/
theorem pour_append {pieces more : List Piece} {out : List Char}
    (h : pour value? none pieces = .ok out) :
    pour value? left (pieces ++ more) = before out (pour value? left more) := by
  induction pieces generalizing out with
  | nil =>
      cases h
      cases hmore : pour value? left more <;> simp [before, Except.map, hmore]
  | cons piece pieces ih =>
      cases piece with
      | literal c =>
          rw [pour, before_eq_ok_iff] at h
          obtain ⟨rest, hrest, rfl⟩ := h
          rw [List.cons_append, pour, ih hrest, before_append]
      | placeholder name =>
          rw [pour] at h
          rw [List.cons_append, pour]
          cases hvalue : value? name with
          | none => simp [hvalue] at h
          | some value =>
              simp only [hvalue, before_eq_ok_iff] at h
              obtain ⟨rest, hrest, rfl⟩ := h
              simp only [ih hrest, before_append]

/-! ### The text as a whole -/

/-- What comes of a text with these pieces. -/
structure FilledFrom (value? : String → Option String) (pieces : List Piece)
    (left : Option (List Char)) (result : Except PlaceholderError String) : Prop where
  /-- If all placeholders are closed and their variables set, they are replaced, and the rest of
  the text is as it was. -/
  filled : ∀ out, result = .ok out ↔
    left = none ∧ AllSet value? pieces ∧ out.toList = pieces.flatMap (Piece.filled value?)
  /-- The first placeholder whose variable is not set is complained about. -/
  unset : ∀ name, result = .error (.unset name) ↔
    ∃ front back, pieces = front ++ .placeholder name :: back ∧ AllSet value? front ∧
      value? name = none
  /-- A brace is missed only at the last placeholder, so all others come before. -/
  unclosed : result = .error .unclosed ↔ left.isSome ∧ AllSet value? pieces

theorem interpolate_eq_pour {s : String} {pieces : List Piece} (h : Splits s.toList pieces left) :
    interpolate value? s = (pour value? left pieces).map String.ofList := by
  rw [interpolate, fill_eq_pour h]

theorem map_ofList_eq_error_iff {filled : Except PlaceholderError (List Char)}
    {e : PlaceholderError} : filled.map String.ofList = .error e ↔ filled = .error e := by
  cases filled <;> simp [Except.map]

theorem map_ofList_eq_ok_iff {filled : Except PlaceholderError (List Char)} {out : String} :
    filled.map String.ofList = .ok out ↔ filled = .ok out.toList := by
  cases filled with
  | error e => simp [Except.map]
  | ok cs =>
      simp only [Except.map, Except.ok.injEq]
      constructor
      · rintro rfl
        exact String.toList_ofList.symm
      · rintro rfl
        exact String.ofList_toList

theorem filledFrom_interpolate {s : String} {pieces : List Piece}
    (h : Splits s.toList pieces left) :
    FilledFrom value? pieces left (interpolate value? s) := by
  rw [interpolate_eq_pour h]
  refine ⟨?_, ?_, ?_⟩
  · intro out
    rw [map_ofList_eq_ok_iff, pour_eq_ok_iff]
  · intro name
    rw [map_ofList_eq_error_iff, pour_eq_unset_iff]
  · rw [map_ofList_eq_error_iff, pour_eq_unclosed_iff]

/-- What is filled of two texts is what is filled of each, if the cut between them is no cut
through the opening of a placeholder. -/
theorem interpolate_append {s more out : String} {pieces : List Piece}
    (h : Splits s.toList pieces none) (hout : interpolate value? s = .ok out)
    (hcut : pieces.getLast? = some (.literal '$') → more.toList.head? ≠ some '{') :
    interpolate value? (s ++ more) = (interpolate value? more).map (out ++ ·) := by
  obtain ⟨pieces', left, hmore⟩ := exists_splits more.toList
  have hboth : Splits (s ++ more).toList (pieces ++ pieces') left := by
    rw [String.toList_append]
    exact h.append hcut hmore
  rw [interpolate_eq_pour h, map_ofList_eq_ok_iff] at hout
  rw [interpolate_eq_pour hboth, interpolate_eq_pour hmore, pour_append hout]
  cases pour value? left pieces' with
  | error e => rfl
  | ok rest =>
      show Except.ok (String.ofList (out.toList ++ rest)) = Except.ok (out ++ String.ofList rest)
      rw [String.ofList_append, String.ofList_toList]

end Interpolation

open Interpolation in
/--
**Filling the placeholders of a text is one substitution, from left to right.**

A text has pieces in exactly one way, and its pieces alone say what comes of it.  Without an
opening it stays as it is.  If it can be filled, then so it is in front of any other text, unless
its last character and the first of the other one open a placeholder.
-/
theorem interpolate_single_pass (value? : String → Option String) (s : String) :
    (∃ pieces left, Splits s.toList pieces left ∧
      (∀ pieces' left', Splits s.toList pieces' left' → pieces' = pieces ∧ left' = left) ∧
      s.toList = textOf pieces left ∧ FilledFrom value? pieces left (interpolate value? s)) ∧
    (¬ Opens s.toList → interpolate value? s = .ok s) ∧
    ∀ out more, interpolate value? s = .ok out →
      ¬ (∃ pieces, Splits s.toList pieces none ∧ pieces.getLast? = some (.literal '$') ∧
        more.toList.head? = some '{') →
      interpolate value? (s ++ more) = (interpolate value? more).map (out ++ ·) := by
  obtain ⟨pieces, left, hsplits⟩ := exists_splits s.toList
  have hfilled : FilledFrom value? pieces left (interpolate value? s) :=
    filledFrom_interpolate hsplits
  refine ⟨⟨pieces, left, hsplits, ?_, hsplits.eq_textOf, hfilled⟩, interpolate_of_not_opens, ?_⟩
  · intro pieces' left' h'
    exact hsplits.unique h'
  · intro out more hout hcut
    obtain ⟨rfl, -, -⟩ := (hfilled.filled out).1 hout
    refine interpolate_append hsplits hout ?_
    intro hlast hbrace
    exact hcut ⟨pieces, hsplits, hlast, hbrace⟩

/-- A value that looks like a placeholder stays as it is, and so does a dollar sign alone. -/
example : interpolate (fun name => if name = "A" then some "$\x7bB\x7d" else none)
    "$$\x7bA\x7d$" = .ok "$$\x7bB\x7d$" := by decide +kernel

end InvoiceApproval
