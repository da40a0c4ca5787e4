/-
Nothing in a TOML document is null.

TOML has no word for nothing: a field that says nothing is left out.  So no document that is
read from TOML holds a null, however deep (`nullFree_of_read?`), and a field that is there
says something.
-/
import InvoiceApproval.Data.Toml.Reader
import InvoiceApproval.Proofs.Toml.Tree

namespace InvoiceApproval

namespace Data

mutual

/-- No null stands in a document, however deep. -/
def NullFree : Data → Prop
  | .null => False
  | .bool _ | .number _ | .text _ => True
  | .list items => ItemsNullFree items
  | .record fields => FieldsNullFree fields

/-- No null stands in the items of a list. -/
def ItemsNullFree : List Data → Prop
  | [] => True
  | d :: ds => NullFree d ∧ ItemsNullFree ds

/-- No null stands in the fields of a record. -/
def FieldsNullFree : List (String × Data) → Prop
  | [] => True
  | (_, d) :: fields => NullFree d ∧ FieldsNullFree fields

end

theorem fieldsNullFree_iff {fields : List (String × Data)} :
    FieldsNullFree fields ↔ ∀ f ∈ fields, f.2.NullFree := by
  induction fields with
  | nil => simp [FieldsNullFree]
  | cons f fields ih => simp [FieldsNullFree, ih]

theorem nullFree_of_lookup {fields : List (String × Data)} (h : FieldsNullFree fields)
    {name : String} {d : Data} (hd : fields.lookup name = some d) : d.NullFree :=
  fieldsNullFree_iff.1 h _ (Toml.mem_of_lookup hd)

end Data

namespace Toml

open Data (NullFree FieldsNullFree ItemsNullFree)

/-! ### The tree -/

/-- No null stands below the entries of a table. -/
def Entries.NullFree (es : Entries) : Prop := ∀ e ∈ es, e.2.toData.NullFree

theorem fieldsNullFree_entriesToData {es : Entries} :
    FieldsNullFree (entriesToData es) ↔ es.NullFree := by
  induction es with
  | nil => simp [entriesToData, FieldsNullFree, Entries.NullFree]
  | cons e es ih =>
      obtain ⟨k, n⟩ := e
      simp [entriesToData, FieldsNullFree, Entries.NullFree, ih]

theorem itemsNullFree_rowsToData {rows : List Entries} {after : List Data} :
    ItemsNullFree (rowsToData rows after)
      ↔ (∀ row ∈ rows, Entries.NullFree row) ∧ ItemsNullFree after := by
  induction rows generalizing after with
  | nil => simp [rowsToData]
  | cons row rows ih =>
      rw [rowsToData, ih]
      simp only [ItemsNullFree, NullFree, fieldsNullFree_entriesToData, List.forall_mem_cons]
      rw [and_left_comm, and_assoc]

theorem nullFree_table {origin : Origin} {es : Entries} :
    (Node.table origin es).toData.NullFree ↔ es.NullFree := by
  rw [Node.toData, NullFree, fieldsNullFree_entriesToData]

theorem nullFree_rows {newest : Entries} {older : List Entries} :
    (Node.rows newest older).toData.NullFree ↔
      newest.NullFree ∧ ∀ row ∈ older, Entries.NullFree row := by
  rw [Node.toData, NullFree, itemsNullFree_rowsToData]
  simp only [ItemsNullFree, NullFree, fieldsNullFree_entriesToData, and_true]
  exact and_comm

namespace Entries.NullFree

variable {es : Entries} {name : String} {n : Node}

theorem nil : Entries.NullFree [] := fun _ h => nomatch h

theorem lookup (h : es.NullFree) (hn : List.lookup name es = some n) : n.toData.NullFree :=
  h _ (mem_of_lookup hn)

theorem append (h : es.NullFree) (hn : n.toData.NullFree) :
    Entries.NullFree (es ++ [(name, n)]) := by
  intro e he
  rcases List.mem_append.1 he with he | he
  · exact h e he
  · rw [List.mem_singleton.1 he]
    exact hn

theorem replace (h : es.NullFree) (hn : n.toData.NullFree) : (es.replace name n).NullFree := by
  intro e he
  obtain ⟨⟨k, v⟩, hmem, rfl⟩ := List.mem_map.1 he
  dsimp only
  split
  · exact hn
  · exact h _ hmem

theorem erase (h : es.NullFree) : (es.erase name).NullFree :=
  fun e he => h e (List.mem_filter.1 he).1

end Entries.NullFree

/-- A step that assigns no null brings none into a table without one. -/
theorem stable_nullFree :
    Stable Data.NullFree fun es es' => Entries.NullFree es → Entries.NullFree es' where
  refl _ h := h
  trans h h' hes := h' (h hes)
  value hd hes := hes.append hd
  newTable hinner hes := hes.append (nullFree_table.2 (hinner .nil))
  newRows hrow hes := hes.append (nullFree_rows.2 ⟨hrow .nil, fun _ h => nomatch h⟩)
  table hname hinner hes :=
    hes.replace (nullFree_table.2 (hinner (nullFree_table.1 (hes.lookup hname))))
  header hname hinner hes :=
    hes.erase.append (nullFree_table.2 (hinner (nullFree_table.1 (hes.lookup hname))))
  lastRow hname hnewest hes :=
    have hrows := nullFree_rows.1 (hes.lookup hname)
    hes.replace (nullFree_rows.2 ⟨hnewest hrows.1, hrows.2⟩)
  nextRow hname hrow hes :=
    hes.replace (nullFree_rows.2
      ⟨hrow .nil, List.forall_mem_cons.2 (nullFree_rows.1 (hes.lookup hname))⟩)

/-! ### Values -/

section

variable {cs rest : List Char} {d : Data}

theorem nullFree_of_integer? {negative : Bool} {n : Nat} (h : integer? negative n = some d) :
    d.NullFree := by
  unfold integer? at h
  split at h
  · cases h
    trivial
  · exact nomatch h

theorem nullFree_of_fraction? {negative : Bool} {whole behind : List Char} {exponent : Int}
    (h : fraction? negative whole behind exponent = some d) : d.NullFree := by
  unfold fraction? at h
  split at h
  · cases h
    trivial
  · split at h
    · cases h
      trivial
    · exact nomatch h

theorem nullFree_of_takeBased {base : Nat} {isDigit : Char → Bool}
    (h : takeBased base isDigit cs = some (d, rest)) : d.NullFree := by
  obtain ⟨⟨ds, left⟩, -, h⟩ := Option.bind_eq_some_iff.1 h
  obtain ⟨n, hn, h⟩ := Option.bind_eq_some_iff.1 h
  cases h
  exact nullFree_of_integer? hn

theorem nullFree_of_takeDecimal {negative : Bool} (h : takeDecimal negative cs = some (d, rest)) :
    d.NullFree := by
  have hfraction : ∀ {whole behind : List Char} {exponent : Int} {left : List Char},
      (do return (← fraction? negative whole behind exponent, left) : Option (Data × List Char))
        = some (d, rest) → d.NullFree := by
    intro whole behind exponent left h
    obtain ⟨value, hvalue, h⟩ := Option.bind_eq_some_iff.1 h
    cases h
    exact nullFree_of_fraction? hvalue
  have hinteger : ∀ {n : Nat} {left : List Char},
      (do return (← integer? negative n, left) : Option (Data × List Char))
        = some (d, rest) → d.NullFree := by
    intro n left h
    obtain ⟨value, hvalue, h⟩ := Option.bind_eq_some_iff.1 h
    cases h
    exact nullFree_of_integer? hvalue
  obtain ⟨⟨whole, left⟩, -, h⟩ := Option.bind_eq_some_iff.1 h
  dsimp only at h
  split at h
  · exact nomatch h
  split at h
  · obtain ⟨⟨behind, left⟩, -, h⟩ := Option.bind_eq_some_iff.1 h
    dsimp only at h
    split at h
    · split at h
      · obtain ⟨⟨exponent, left⟩, -, h⟩ := Option.bind_eq_some_iff.1 h
        exact hfraction h
      · exact hfraction h
    · exact hfraction h
  · split at h
    · obtain ⟨⟨exponent, left⟩, -, h⟩ := Option.bind_eq_some_iff.1 h
      exact hfraction h
    · exact hinteger h
  · exact hinteger h

theorem nullFree_of_takeSigned {negative : Bool} (h : takeSigned negative cs = some (d, rest)) :
    d.NullFree := by
  unfold takeSigned at h
  split at h
  · cases h
    trivial
  · cases h
    trivial
  · exact nullFree_of_takeDecimal h

theorem nullFree_of_takeNumber (h : takeNumber cs = some (d, rest)) : d.NullFree := by
  unfold takeNumber at h
  split at h
  · exact nullFree_of_takeBased h
  · exact nullFree_of_takeBased h
  · exact nullFree_of_takeBased h
  · exact nullFree_of_takeSigned h
  · exact nullFree_of_takeSigned h
  · exact nullFree_of_takeSigned h

theorem nullFree_of_takeScalar (h : takeScalar cs = some (d, rest)) : d.NullFree := by
  unfold takeScalar at h
  split at h
  · cases h
    trivial
  · cases h
    trivial
  · obtain ⟨⟨s, left⟩, -, h⟩ := Option.map_eq_some_iff.1 h
    cases h
    trivial
  · obtain ⟨⟨s, left⟩, -, h⟩ := Option.map_eq_some_iff.1 h
    cases h
    trivial
  · rcases Option.or_eq_some_iff.1 h with h | ⟨-, h⟩
    · obtain ⟨left, -, h⟩ := Option.map_eq_some_iff.1 h
      cases h
      exact ⟨trivial, trivial⟩
    · exact nullFree_of_takeNumber h

end

/-- What is taken within some steps holds no null. -/
structure TakesNullFree (steps : Nat) : Prop where
  value : ∀ {depth cs d rest}, takeValue steps depth cs = some (d, rest) → d.NullFree
  items : ∀ {depth cs ds rest}, takeItems steps depth cs = some (ds, rest) → ItemsNullFree ds
  pairs : ∀ {depth cs as rest}, takePairs steps depth cs = some (as, rest) →
    ∀ a ∈ as, a.value.NullFree
  assignment : ∀ {depth cs a rest}, takeAssignment steps depth cs = some (a, rest) →
    a.value.NullFree

namespace TakesNullFree

variable {steps depth : Nat} {cs rest : List Char} (ih : TakesNullFree steps)
include ih

theorem value_succ {d : Data} (h : takeValue (steps + 1) depth cs = some (d, rest)) :
    d.NullFree := by
  unfold takeValue at h
  split at h
  · split at h
    · cases h
    · obtain ⟨⟨items, left⟩, hitems, h⟩ := Option.bind_eq_some_iff.1 h
      cases h
      exact ih.items hitems
  · split at h
    · cases h
    · split at h
      · cases h
        trivial
      · obtain ⟨⟨pairs, left⟩, hpairs, h⟩ := Option.bind_eq_some_iff.1 h
        obtain ⟨entries, hentries, h⟩ := Option.bind_eq_some_iff.1 h
        cases h
        exact fieldsNullFree_entriesToData.2
          (stable_nullFree.assignAll (ih.pairs hpairs) hentries .nil)
  · exact nullFree_of_takeScalar h

theorem items_succ {ds : List Data} (h : takeItems (steps + 1) depth cs = some (ds, rest)) :
    ItemsNullFree ds := by
  unfold takeItems at h
  split at h
  · cases h
    trivial
  · obtain ⟨⟨d, left⟩, hd, h⟩ := Option.bind_eq_some_iff.1 h
    dsimp only at h
    split at h
    · obtain ⟨⟨more, left⟩, hmore, h⟩ := Option.bind_eq_some_iff.1 h
      cases h
      exact ⟨ih.value hd, ih.items hmore⟩
    · cases h
      exact ⟨ih.value hd, trivial⟩
    · cases h

theorem pairs_succ {as : List Assignment} (h : takePairs (steps + 1) depth cs = some (as, rest)) :
    ∀ a ∈ as, a.value.NullFree := by
  rw [takePairs] at h
  obtain ⟨⟨a, left⟩, ha, h⟩ := Option.bind_eq_some_iff.1 h
  dsimp only at h
  split at h
  · obtain ⟨⟨more, left⟩, hmore, h⟩ := Option.bind_eq_some_iff.1 h
    cases h
    exact List.forall_mem_cons.2 ⟨ih.assignment ha, ih.pairs hmore⟩
  · cases h
    exact List.forall_mem_cons.2 ⟨ih.assignment ha, List.forall_mem_nil _⟩
  · cases h

theorem assignment_succ {a : Assignment}
    (h : takeAssignment (steps + 1) depth cs = some (a, rest)) : a.value.NullFree := by
  rw [takeAssignment] at h
  obtain ⟨⟨path, name, left⟩, -, h⟩ := Option.bind_eq_some_iff.1 h
  dsimp only at h
  split at h
  · obtain ⟨⟨d, left⟩, hd, h⟩ := Option.bind_eq_some_iff.1 h
    cases h
    exact ih.value hd
  · cases h

end TakesNullFree

/-- **Nothing that is taken holds a null, however many steps there are.** -/
theorem takesNullFree (steps : Nat) : TakesNullFree steps := by
  induction steps with
  | zero =>
      constructor
      · intro depth cs d rest h
        simp [takeValue] at h
      · intro depth cs ds rest h
        simp [takeItems] at h
      · intro depth cs as rest h
        simp [takePairs] at h
      · intro depth cs a rest h
        simp [takeAssignment] at h
  | succ steps ih => exact ⟨ih.value_succ, ih.items_succ, ih.pairs_succ, ih.assignment_succ⟩

/-! ### Documents -/

theorem nullFree_of_takeLines {steps : Nat} {cs : List Char} {opening : List Assignment}
    {sections : List Section} (h : takeLines steps cs = some (opening, sections)) :
    (∀ a ∈ opening, a.value.NullFree) ∧ ∀ s ∈ sections, ∀ a ∈ s.assignments, a.value.NullFree := by
  induction steps generalizing cs opening sections with
  | zero => exact nomatch h
  | succ steps ih =>
      rw [takeLines] at h
      split at h
      · cases h
        exact ⟨fun _ h => (nomatch h), fun _ h => (nomatch h)⟩
      · obtain ⟨⟨header, left⟩, -, h⟩ := Option.bind_eq_some_iff.1 h
        obtain ⟨⟨assignments, more⟩, hmore, h⟩ := Option.bind_eq_some_iff.1 h
        cases h
        exact ⟨fun _ h => (nomatch h), List.forall_mem_cons.2 (ih hmore)⟩
      · obtain ⟨⟨a, left⟩, ha, h⟩ := Option.bind_eq_some_iff.1 h
        obtain ⟨left, -, h⟩ := Option.bind_eq_some_iff.1 h
        obtain ⟨⟨assignments, more⟩, hmore, h⟩ := Option.bind_eq_some_iff.1 h
        cases h
        exact ⟨List.forall_mem_cons.2 ⟨(takesNullFree _).assignment ha, (ih hmore).1⟩, (ih hmore).2⟩

/-- **No null stands in a document that is read from TOML.** -/
theorem nullFree_of_read? {s : String} {document : List (String × Data)}
    (h : read? s = some document) : FieldsNullFree document := by
  obtain ⟨⟨opening, sections⟩, hlines, h⟩ := Option.bind_eq_some_iff.1 h
  obtain ⟨entries, hentries, h⟩ := Option.bind_eq_some_iff.1 h
  obtain ⟨opened, hopened, hsections⟩ := Option.bind_eq_some_iff.1 hentries
  cases h
  obtain ⟨hopening, hmore⟩ := nullFree_of_takeLines hlines
  exact fieldsNullFree_entriesToData.2
    (stable_nullFree.addSections hmore hsections (stable_nullFree.assignAll hopening hopened .nil))

end Toml

end InvoiceApproval
