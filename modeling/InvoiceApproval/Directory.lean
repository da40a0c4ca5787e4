/-
The directory of approvers.

A directory holds at most one approver for each id, in the order in which the ids
were first entered.  Entering an approver whose id is taken puts the new one into
the place of the old one, so the last entry wins and nobody else moves.

The approvers stand in a row, and the place of every id in that row is noted down, so
that a look-up need not walk through the row.  Row and notes have to agree: an id is
noted with a place exactly if the approver at that place has the id.  From that alone
it follows that every noted place is a place in the row, and that no two approvers
have one id.
-/
import InvoiceApproval.Approver

namespace InvoiceApproval

/-- Approvers in a row, with the place of each id. -/
structure Directory where
  approvers : List Approver
  /-- The place in the row that is noted for an id. -/
  places : List (String × Nat)
  /-- What is noted is so, and everybody's place is noted. -/
  lookup_places_iff : ∀ id place,
    places.lookup id = some place ↔ (approvers.map (·.id))[place]? = some id

namespace Directory

/-- The approver at the place that is noted for an id. -/
theorem exists_of_lookup {d : Directory} {id : String} {place : Nat}
    (h : d.places.lookup id = some place) :
    ∃ a, d.approvers[place]? = some a ∧ a.id = id := by
  have hid := (d.lookup_places_iff id place).1 h
  rw [List.getElem?_map, Option.map_eq_some_iff] at hid
  exact hid

/-- Every place that is noted is a place in the row. -/
theorem lt_of_lookup {d : Directory} {id : String} {place : Nat}
    (h : d.places.lookup id = some place) : place < d.approvers.length := by
  obtain ⟨a, ha, -⟩ := exists_of_lookup h
  exact (List.getElem?_eq_some_iff.1 ha).1

/-- No two approvers have one id. -/
theorem ids_nodup (d : Directory) : (d.approvers.map (·.id)).Nodup := by
  rw [List.Nodup, List.pairwise_iff_getElem]
  intro i j hi hj hij heq
  have hplace := (d.lookup_places_iff _ i).2 (List.getElem?_eq_getElem hi)
  rw [heq, (d.lookup_places_iff _ j).2 (List.getElem?_eq_getElem hj)] at hplace
  exact Nat.ne_of_gt hij (Option.some.inj hplace)

/-- An id is noted exactly if an approver has it. -/
theorem lookup_places_eq_none_iff {d : Directory} {id : String} :
    d.places.lookup id = none ↔ id ∉ d.approvers.map (·.id) := by
  constructor
  · intro h hmem
    obtain ⟨place, hplace⟩ := List.mem_iff_getElem?.1 hmem
    rw [(d.lookup_places_iff id place).2 hplace] at h
    cases h
  · intro h
    cases hplace : d.places.lookup id with
    | none => rfl
    | some place =>
      exact absurd (List.mem_of_getElem? ((d.lookup_places_iff id place).1 hplace)) h

/-! ### Entering approvers -/

/-- The empty directory. -/
def empty : Directory := ⟨[], [], by simp⟩

theorem map_id_set {d : Directory} {a : Approver} {place : Nat}
    (h : d.places.lookup a.id = some place) :
    (d.approvers.set place a).map (·.id) = d.approvers.map (·.id) := by
  have hid := (d.lookup_places_iff a.id place).1 h
  obtain ⟨hlt, hid⟩ := List.getElem?_eq_some_iff.1 hid
  rw [List.map_set, ← hid, List.set_getElem_self]

theorem lookup_places_iff_append {d : Directory} {a : Approver}
    (h : d.places.lookup a.id = none) (id : String) (place : Nat) :
    ((a.id, d.approvers.length) :: d.places).lookup id = some place
      ↔ ((d.approvers ++ [a]).map (·.id))[place]? = some id := by
  have hnew := d.lookup_places_iff a.id place
  rw [h] at hnew
  rw [List.lookup_cons, List.map_append, List.getElem?_append, List.length_map]
  by_cases hid : id = a.id
  · subst hid
    grind
  · have hne : (id == a.id) = false := beq_false_of_ne hid
    rw [hne, d.lookup_places_iff id place]
    grind

/-- A directory with one approver entered: in the place of the approver of the same id,
else at the end. -/
def insert (d : Directory) (a : Approver) : Directory :=
  match h : d.places.lookup a.id with
  | some place => {
    approvers := d.approvers.set place a
    places := d.places
    lookup_places_iff := by
      intro id other
      rw [map_id_set h]
      exact d.lookup_places_iff id other }
  | none => {
    approvers := d.approvers ++ [a]
    places := (a.id, d.approvers.length) :: d.places
    lookup_places_iff := lookup_places_iff_append h }

/-- An approver whose id is noted takes the place of the one who had it. -/
theorem approvers_insert_of_some {d : Directory} {a : Approver} {place : Nat}
    (h : d.places.lookup a.id = some place) :
    (d.insert a).approvers = d.approvers.set place a := by
  unfold insert
  split
  · rename_i other hother
    cases hother.symm.trans h
    rfl
  · rename_i hnone
    cases hnone.symm.trans h

/-- An approver whose id is new comes last. -/
theorem approvers_insert_of_none {d : Directory} {a : Approver}
    (h : d.places.lookup a.id = none) : (d.insert a).approvers = d.approvers ++ [a] := by
  unfold insert
  split
  · rename_i place hplace
    cases hplace.symm.trans h
  · rfl

/-- The directory of a list of approvers, entered one after the other. -/
def ofList (as : List Approver) : Directory := as.foldl insert empty

theorem approvers_foldl_insert (as : List Approver) :
    ∀ d : Directory, ((d.approvers ++ as).map (·.id)).Nodup →
      (as.foldl insert d).approvers = d.approvers ++ as := by
  induction as with
  | nil => simp
  | cons a as ih =>
    intro d h
    have hnew : a.id ∉ d.approvers.map (·.id) := by
      intro hmem
      rw [List.map_append, List.nodup_append] at h
      exact h.2.2 a.id hmem a.id (by simp) rfl
    have hinsert : (d.insert a).approvers = d.approvers ++ [a] :=
      approvers_insert_of_none (lookup_places_eq_none_iff.2 hnew)
    rw [List.foldl_cons, ih, hinsert, List.append_assoc, List.singleton_append]
    rwa [hinsert, List.append_assoc, List.singleton_append]

/-- Approvers with different ids all keep their places. -/
theorem approvers_ofList {as : List Approver} (h : (as.map (·.id)).Nodup) :
    (ofList as).approvers = as := by
  rw [ofList, approvers_foldl_insert as empty h]
  rfl

/-! ### Looking up -/

/-- How many approvers a directory holds. -/
def size (d : Directory) : Nat := d.approvers.length

/-- The place of an id. -/
def place? (d : Directory) (id : String) : Option (Fin d.approvers.length) :=
  match h : d.places.lookup id with
  | some place => some ⟨place, lt_of_lookup h⟩
  | none => none

/-- The approver of this id. -/
def find? (d : Directory) (id : String) : Option Approver := (d.place? id).map d.approvers.get

/-- The approvers of these ids, one for each id that is known, in the order asked for. -/
def resolve (d : Directory) (ids : List String) : List Approver :=
  ids.filterMap d.find?

/-- The approvers of a department. -/
def ofDepartment (d : Directory) (department : Department) : List Approver :=
  d.approvers.filter (·.belongsTo department)

/-- The managers. -/
def managers (d : Directory) : List Approver := d.approvers.filter (·.isManager)

/-- **An approver is found by an id exactly if one of the row has it.** -/
theorem find?_eq_some_iff {d : Directory} {id : String} {a : Approver} :
    d.find? id = some a ↔ a ∈ d.approvers ∧ a.id = id := by
  unfold find? place?
  split
  · rename_i place hplace
    obtain ⟨b, hb, rfl⟩ := exists_of_lookup hplace
    have hget : d.approvers.get ⟨place, lt_of_lookup hplace⟩ = b :=
      (List.getElem?_eq_some_iff.1 hb).2
    rw [Option.map_some, hget, Option.some_inj]
    constructor
    · rintro rfl
      exact ⟨List.mem_of_getElem? hb, rfl⟩
    · rintro ⟨hmem, hid⟩
      obtain ⟨other, hother⟩ := List.mem_iff_getElem?.1 hmem
      have hlookup := (d.lookup_places_iff a.id other).2 (by rw [List.getElem?_map, hother]; rfl)
      rw [hid, hplace, Option.some_inj] at hlookup
      rw [← hlookup, hb] at hother
      exact Option.some.inj hother
  · rename_i hnone
    rw [Option.map_none]
    refine iff_of_false nofun ?_
    rintro ⟨hmem, rfl⟩
    exact lookup_places_eq_none_iff.1 hnone (List.mem_map_of_mem hmem)

end Directory

end InvoiceApproval
