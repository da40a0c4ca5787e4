/-
Rows: records whose fields are known beforehand.

A row may be written with the names of its fields or, shorter, as a list of their
values in a fixed order.  The two differ in what may be left out.  A named row may
lack whatever is optional; a listed row may only break off before a field that has
a default.

Readers differ in how they take what they do not know and what is there twice, and
in what they take for nothing; `Strictness` says how.
-/
import InvoiceApproval.Data.Basic

namespace InvoiceApproval.Data

/-- How a reader takes fields that it does not know, items beyond the last field, a field
that is there twice, and a name that is written as a field with nothing in it. -/
structure Strictness where
  refusesUnknown : Bool
  refusesSurplus : Bool
  /-- A table in a file cannot hold a name twice, and nobody has to look for one. -/
  refusesRepeated : Bool
  /-- What stands for nothing behind a name. -/
  isNothing : Data → Bool

/-- A message between programs: new fields do no harm. -/
def Strictness.message : Strictness := ⟨false, true, true, isNull⟩

/-- A file of reference data: a misspelt field is a mistake. -/
def Strictness.reference : Strictness := ⟨true, false, false, isEmpty⟩

/-- A file of settings: what is not known is for somebody else. -/
def Strictness.settings : Strictness := ⟨false, false, false, isEmpty⟩

/-- A row, written in one of the two ways. -/
inductive Row where
  | named (fields : List (String × Data))
  | listed (items : List Data)

namespace Row

/-- Reads a row with these fields. -/
def of? (strictness : Strictness) (names : List String) : Data → Option Row
  | .record fields =>
    if strictness.refusesUnknown && fields.any fun (name, _) => !names.contains name then none
    else if strictness.refusesRepeated && !names.all (isUnrepeated fields) then none
    else some (.named fields)
  | .list items =>
    if strictness.refusesSurplus && decide (names.length < items.length) then none
    else some (.listed items)
  | _ => none

/-- What is written for the field of this name, which is at this place in the list. -/
def at? (row : Row) (place : Nat) (name : String) : Option Data :=
  match row with
  | .named fields => fields.lookup name
  | .listed items => items[place]?

/-- A field that has to be there. -/
def required {α : Type} (row : Row) (place : Nat) (name : String) (read : Data → Option α) :
    Option α :=
  (row.at? place name).bind read

/-- A field that may be left out of a named row and may be null in either. -/
def optional {α : Type} (row : Row) (place : Nat) (name : String) (read : Data → Option α) :
    Option (Option α) :=
  match row.at? place name, row with
  | some .null, _ => some none
  | some d, _ => (read d).map some
  | none, .named _ => some none
  | none, .listed _ => none

/-- A field that has a default. -/
def defaulted {α : Type} (row : Row) (place : Nat) (name : String) (default : α)
    (read : Data → Option α) : Option α :=
  match row.at? place name with
  | some d => read d
  | none => some default

/-- Reference data in a record make a row if no other fields are named. -/
theorem of?_reference_iff {names : List String} {fields : List (String × Data)} {row : Row} :
    of? .reference names (.record fields) = some row
      ↔ (∀ f ∈ fields, f.1 ∈ names) ∧ row = .named fields := by
  have hknown : (Strictness.reference.refusesUnknown &&
      fields.any fun (name, _) => !names.contains name) = true
        ↔ ¬ ∀ f ∈ fields, f.1 ∈ names := by
    simp [Strictness.reference]
  rw [of?]
  split
  · rename_i hunknown
    exact iff_of_false nofun fun h => hknown.1 hunknown h.1
  · rename_i hunknown
    have hall : ∀ f ∈ fields, f.1 ∈ names := Classical.not_not.1 (mt hknown.2 hunknown)
    rw [and_iff_right hall]
    show some (named fields) = some row ↔ row = named fields
    rw [Option.some_inj, eq_comm]

/-! ### What a row says -/

/-- What a row says in a field: nothing, if the field is missing or nothing is written in
it, and else what can be read there. -/
inductive Says {α : Type} (row : Row) (place : Nat) (name : String) (read : Data → Option α) :
    Option α → Prop
  | silent : (∀ d, row.at? place name = some d → d = .null) → Says row place name read none
  | written {d : Data} {a : α} :
    row.at? place name = some d → d ≠ .null → read d = some a →
      Says row place name read (some a)

/-- Whatever is read in a field that may be left out is what the row says there. -/
theorem says_of_optional {α : Type} {row : Row} {place : Nat} {name : String}
    {read : Data → Option α} {said : Option α} (h : row.optional place name read = some said) :
    row.Says place name read said := by
  unfold optional at h
  split at h
  · rename_i hnull
    cases h
    exact .silent fun d hd => by rw [hnull] at hd; exact (Option.some.inj hd).symm
  · rename_i d hnull hd
    obtain ⟨a, ha, rfl⟩ := Option.map_eq_some_iff.1 h
    exact .written hd hnull ha
  · rename_i hnone
    cases h
    exact .silent fun d hd => by rw [hnone] at hd; cases hd
  · cases h

/-- In a named row it is the other way round as well. -/
theorem optional_named_iff {α : Type} {fields : List (String × Data)} {place : Nat} {name : String}
    {read : Data → Option α} {said : Option α} :
    (Row.named fields).optional place name read = some said
      ↔ (Row.named fields).Says place name read said := by
  refine ⟨says_of_optional, fun h => ?_⟩
  cases h with
  | silent hnull =>
    unfold optional
    cases hd : (Row.named fields).at? place name with
    | none => rfl
    | some d => rw [hnull d hd]
  | written hd hnull ha =>
    unfold optional
    rw [hd]
    cases ‹Data› with
    | null => exact absurd rfl hnull
    | _ => simp [ha]

end Row

end InvoiceApproval.Data
