/-
The routing that a display name tells of.

A rule without a routing gets one from its name, and the name is lower-cased first, with the
whole table.  What is asked here is what a reader of the catalog has to know of that table, and
the answer is nothing: the routing is found by looking for four phrases in the name as it
stands, up to the case of the ASCII letters.  That is `Text.occursIn_iff_holdsPhrase` for each of
them, once it is seen that all four are plain.

A name that holds a phrase holds it however long it gets.  So text in front of a name or behind
it can turn a routing only into one that is looked for earlier.
-/
import InvoiceApproval.Proofs.Text.Case
import InvoiceApproval.Routing

namespace InvoiceApproval

open Text (Lowers HoldsPhrase)

namespace Routing

/-- The routing that a lower-cased name tells of. -/
def ofLowered (small : List Char) : Routing :=
  if mentions managerPhrases small then managerInDepartment
  else if mentions nonManagerPhrases small then nonManagerInDepartment
  else unfiltered

/-- A name holds one of several phrases. -/
def Speaks (phrases : List String) (name : String) : Prop :=
  ∃ phrase ∈ phrases, HoldsPhrase phrase name

theorem Speaks.append {phrases : List String} {name : String} (h : Speaks phrases name)
    (front back : String) : Speaks phrases (front ++ name ++ back) := by
  obtain ⟨phrase, hphrase, hholds⟩ := h
  exact ⟨phrase, hphrase, hholds.append front back⟩

theorem speaks_pair_iff {first second name : String} :
    Speaks [first, second] name ↔ HoldsPhrase first name ∨ HoldsPhrase second name := by
  simp [Speaks]

/-- What a name says if it tells of this routing. -/
def TellsOf (name : String) : Routing → Prop
  | managerInDepartment => Speaks managerPhrases name
  | nonManagerInDepartment => ¬ Speaks managerPhrases name ∧ Speaks nonManagerPhrases name
  | unfiltered => ¬ Speaks managerPhrases name ∧ ¬ Speaks nonManagerPhrases name

/-! ### Looking for the phrases -/

/-- All phrases are plain, and in small letters. -/
theorem plain_of_mem {phrase : String} (h : phrase ∈ managerPhrases ++ nonManagerPhrases) :
    Text.Plain phrase.toList ∧ Text.asciiLower phrase = phrase := by
  have hall : ∀ phrase ∈ managerPhrases ++ nonManagerPhrases,
      (phrase.toList.all fun c => c.toNat < 0x80) = true ∧ 'k' ∉ phrase.toList ∧
        phrase.toList.getLast? ≠ some 'i' ∧ Text.asciiLower phrase = phrase := by decide +kernel
  obtain ⟨hascii, hk, hlast, hsmall⟩ := hall phrase h
  have hplain (c : Char) (hc : c ∈ phrase.toList) : c.toNat < 0x80 := by
    simpa using List.all_eq_true.1 hascii c hc
  exact ⟨⟨hplain, hk, hlast⟩, hsmall⟩

variable {name : String} {small : List Char}

theorem occursIn_of_mem (h : Lowers name.toList small) (phrase : String)
    (hphrase : phrase ∈ managerPhrases ++ nonManagerPhrases) :
    Text.occursIn phrase.toList small = true ↔ HoldsPhrase phrase name := by
  obtain ⟨hplain, hsmall⟩ := plain_of_mem hphrase
  exact Text.occursIn_iff_holdsPhrase hplain hsmall h

theorem mentions_iff (h : Lowers name.toList small) {phrases : List String}
    (hphrases : phrases ⊆ managerPhrases ++ nonManagerPhrases) :
    mentions phrases small = true ↔ Speaks phrases name := by
  unfold mentions Speaks
  rw [List.any_eq_true]
  exact exists_congr fun phrase =>
    and_congr_right fun hphrase => occursIn_of_mem h phrase (hphrases hphrase)

/-! ### The routing -/

/-- **A lower-cased name tells of a routing exactly if the name says so.** -/
theorem ofLowered_eq_iff (h : Lowers name.toList small) (k : Routing) :
    ofLowered small = k ↔ TellsOf name k := by
  have hmanager := mentions_iff h (List.subset_append_left managerPhrases nonManagerPhrases)
  have hother := mentions_iff h (List.subset_append_right managerPhrases nonManagerPhrases)
  have htells : TellsOf name k ↔ match k with
      | managerInDepartment => mentions managerPhrases small = true
      | nonManagerInDepartment =>
        ¬ mentions managerPhrases small = true ∧ mentions nonManagerPhrases small = true
      | unfiltered =>
        ¬ mentions managerPhrases small = true ∧ ¬ mentions nonManagerPhrases small = true := by
    cases k <;> simp only [TellsOf, hmanager, hother]
  rw [htells, ofLowered]
  by_cases hfirst : mentions managerPhrases small = true <;>
    by_cases hsecond : mentions nonManagerPhrases small = true <;> cases k <;>
      simp [hfirst, hsecond]

/-- All ways to lower-case a name tell of one routing. -/
theorem ofLowered_eq_of_lowers {small' : List Char} (h : Lowers name.toList small)
    (h' : Lowers name.toList small') : ofLowered small = ofLowered small' :=
  (ofLowered_eq_iff h _).2 ((ofLowered_eq_iff h' _).1 rfl)

/--
**A display name tells of a routing by the phrases that stand in it, up to the case of the ASCII
letters.**

Manager phrases go before the others.  Lower-casing adds nothing and takes nothing away, whichever
small letter it takes for a capital sigma.  More text around a name leaves a manager routing as it
is, and never makes a narrowing routing one for everybody.
-/
theorem ofDisplayName_by_phrases (name : String) :
    (ofDisplayName name = managerInDepartment ↔
      HoldsPhrase "department manager" name ∨ HoldsPhrase "low amount with manager" name) ∧
    (ofDisplayName name = nonManagerInDepartment ↔
      ¬ (HoldsPhrase "department manager" name ∨ HoldsPhrase "low amount with manager" name) ∧
        (HoldsPhrase "employee" name ∨ HoldsPhrase "low amount without manager" name)) ∧
    (ofDisplayName name = unfiltered ↔
      ¬ (HoldsPhrase "department manager" name ∨ HoldsPhrase "low amount with manager" name) ∧
        ¬ (HoldsPhrase "employee" name ∨ HoldsPhrase "low amount without manager" name)) ∧
    (∀ small, Lowers name.toList small → ofLowered small = ofDisplayName name) ∧
    ∀ front back,
      (ofDisplayName name = managerInDepartment →
        ofDisplayName (front ++ name ++ back) = managerInDepartment) ∧
      (ofDisplayName name = nonManagerInDepartment →
        ofDisplayName (front ++ name ++ back) ≠ unfiltered) := by
  have hlowers := Text.lowers_lowered name.toList
  have htells := ofLowered_eq_iff hlowers
  rw [← speaks_pair_iff, ← speaks_pair_iff]
  refine ⟨htells managerInDepartment, htells nonManagerInDepartment, htells unfiltered, ?_, ?_⟩
  · intro small h
    exact ofLowered_eq_of_lowers h hlowers
  · intro front back
    have hlonger := ofLowered_eq_iff (Text.lowers_lowered (front ++ name ++ back).toList)
    constructor
    · intro h
      have hspeaks := (htells managerInDepartment).1 h
      exact (hlonger managerInDepartment).2 (hspeaks.append front back)
    · intro h hunfiltered
      have hspeaks := ((htells nonManagerInDepartment).1 h).2
      exact ((hlonger unfiltered).1 hunfiltered).2 (hspeaks.append front back)

/-- The dotted capital I in a name is no letter of a phrase. -/
example : ofDisplayName "LOW AMOUNT WİTH MANAGER" = unfiltered := by decide +kernel

end Routing

end InvoiceApproval
