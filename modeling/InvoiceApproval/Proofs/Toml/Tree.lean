/-
What a document that is being built keeps.

A document grows by assignments and headers, and each of them may reach into tables that are
there already.  What they can do at one table is little: add an entry, or go on with one that
is a table or a list of rows.  A relation between tables that holds of each of these steps
(`Stable`) holds between a document before and after its sections (`Stable.addSections`).

One such relation is that no value changes.  Once a value stands at the end of some names
(`Stands`) it stands there until the document is finished (`stable_grows`), so what a document
says first under a name is what it says, whatever comes behind.
-/
import InvoiceApproval.Data.Toml.Tree

namespace InvoiceApproval.Toml

/-! ### Entries by their names -/

theorem mem_of_lookup {α : Type} {entries : List (String × α)} {name : String} {a : α}
    (h : entries.lookup name = some a) : (name, a) ∈ entries := by
  obtain ⟨front, back, rfl, -⟩ := List.lookup_eq_some_iff.1 h
  exact List.mem_append_right _ List.mem_cons_self

namespace Entries

variable {es : Entries} {name other : String} {n : Node}

theorem replace_cons (k : String) (v : Node) :
    replace name n ((k, v) :: es) = (k, if k = name then n else v) :: replace name n es := by
  by_cases h : k = name <;> simp [replace, h]

theorem lookup_replace_self (h : (es.lookup name).isSome) :
    (replace name n es).lookup name = some n := by
  induction es with
  | nil => exact nomatch h
  | cons e es ih =>
      obtain ⟨k, v⟩ := e
      rw [replace_cons]
      by_cases hk : k = name
      · rw [if_pos hk, hk, List.lookup_cons_self]
      · have hne : (name == k) = false := beq_eq_false_iff_ne.2 (Ne.symm hk)
        rw [List.lookup_cons, hne] at h ⊢
        exact ih h

theorem lookup_replace_of_ne (h : other ≠ name) :
    (replace name n es).lookup other = es.lookup other := by
  induction es with
  | nil => rfl
  | cons e es ih =>
      obtain ⟨k, v⟩ := e
      rw [replace_cons, List.lookup_cons, List.lookup_cons, ih]
      by_cases hk : k = name
      · have hne : (other == k) = false := beq_eq_false_iff_ne.2 (hk ▸ h)
        rw [hne]
      · rw [if_neg hk]

theorem lookup_erase_of_ne (h : other ≠ name) : (erase name es).lookup other = es.lookup other := by
  induction es with
  | nil => rfl
  | cons e es ih =>
      obtain ⟨k, v⟩ := e
      by_cases hk : k = name
      · subst hk
        have hne : (other == k) = false := beq_eq_false_iff_ne.2 h
        rw [erase, List.filter_cons_of_neg (by simp), List.lookup_cons, hne]
        exact ih
      · rw [erase, List.filter_cons_of_pos (by simpa using hk), List.lookup_cons, List.lookup_cons]
        cases other == k with
        | true => rfl
        | false => exact ih

theorem lookup_erase_self : (erase name es).lookup name = none := by
  rw [List.lookup_eq_none_iff]
  intro e he
  have hne : e.1 ≠ name := bne_iff_ne.1 (List.mem_filter.1 he).2
  exact bne_iff_ne.2 (Ne.symm hne)

end Entries

theorem lookup_entriesToData (es : Entries) (name : String) :
    (entriesToData es).lookup name = (es.lookup name).map Node.toData := by
  induction es with
  | nil => rfl
  | cons e es ih =>
      obtain ⟨k, n⟩ := e
      rw [entriesToData, List.lookup_cons, List.lookup_cons]
      cases name == k with
      | true => rfl
      | false => exact ih

/-! ### Steps -/

/-- A relation that holds between a table before and after each step of the building, if the
values that are assigned are of this kind. -/
structure Stable (Assigned : Data → Prop) (R : Entries → Entries → Prop) : Prop where
  refl (es : Entries) : R es es
  trans {es mid es' : Entries} : R es mid → R mid es' → R es es'
  /-- A value is assigned. -/
  value {es : Entries} {name : String} {d : Data} :
    Assigned d → R es (es ++ [(name, .value d)])
  /-- A table is begun. -/
  newTable {es inner : Entries} {name : String} {origin : Origin} :
    R [] inner → R es (es ++ [(name, .table origin inner)])
  /-- Rows are begun. -/
  newRows {es row : Entries} {name : String} :
    R [] row → R es (es ++ [(name, .rows row [])])
  /-- A table is gone on with. -/
  table {es inner inner' : Entries} {name : String} {origin : Origin} :
    es.lookup name = some (.table origin inner) → R inner inner' →
      R es (Entries.replace name (.table origin inner') es)
  /-- A table that has been passed through gets its header. -/
  header {es inner inner' : Entries} {name : String} :
    es.lookup name = some (.table .passed inner) → R inner inner' →
      R es (Entries.erase name es ++ [(name, .table .header inner')])
  /-- The last row is gone on with. -/
  lastRow {es newest newest' : Entries} {older : List Entries} {name : String} :
    es.lookup name = some (.rows newest older) → R newest newest' →
      R es (Entries.replace name (.rows newest' older) es)
  /-- A row is added. -/
  nextRow {es newest row : Entries} {older : List Entries} {name : String} :
    es.lookup name = some (.rows newest older) → R [] row →
      R es (Entries.replace name (.rows row (newest :: older)) es)

namespace Stable

variable {Assigned : Data → Prop} {R : Entries → Entries → Prop} (hR : Stable Assigned R)
  {es es' : Entries}
include hR

theorem assign {name : String} {d : Data} (hd : Assigned d) {path : List String}
    (h : assign name d path es = some es') : R es es' := by
  induction path generalizing es es' with
  | nil =>
      rw [Toml.assign, Entries.add] at h
      split at h
      · cases h
        exact hR.value hd
      · exact nomatch h
  | cons k ks ih =>
      rw [Toml.assign] at h
      split at h
      · obtain ⟨inner, hinner, h⟩ := Option.bind_eq_some_iff.1 h
        cases h
        exact hR.newTable (ih hinner)
      · rename_i origin inner hk
        split at h
        · exact nomatch h
        · obtain ⟨inner', hinner, h⟩ := Option.bind_eq_some_iff.1 h
          cases h
          exact hR.table hk (ih hinner)
      · rename_i newest older hk
        split at h
        · exact nomatch h
        · obtain ⟨newest', hnewest, h⟩ := Option.bind_eq_some_iff.1 h
          cases h
          exact hR.lastRow hk (ih hnewest)
      · exact nomatch h

theorem assignAll {assignments : List Assignment}
    (hassigned : ∀ a ∈ assignments, Assigned a.value)
    (h : assignAll es assignments = some es') : R es es' := by
  induction assignments generalizing es with
  | nil =>
      cases h
      exact hR.refl _
  | cons a rest ih =>
      obtain ⟨ha, hrest⟩ := List.forall_mem_cons.1 hassigned
      obtain ⟨mid, hmid, h⟩ := Option.bind_eq_some_iff.1 h
      exact hR.trans (hR.assign ha hmid) (ih hrest h)

theorem descend {work : Entries → Option Entries}
    (hwork : ∀ {es es'}, work es = some es' → R es es') {path : List String}
    (h : descend work path es = some es') : R es es' := by
  induction path generalizing es es' with
  | nil => exact hwork h
  | cons k ks ih =>
      rw [Toml.descend] at h
      split at h
      · obtain ⟨inner, hinner, h⟩ := Option.bind_eq_some_iff.1 h
        cases h
        exact hR.newTable (ih hinner)
      · rename_i origin inner hk
        obtain ⟨inner', hinner, h⟩ := Option.bind_eq_some_iff.1 h
        cases h
        exact hR.table hk (ih hinner)
      · rename_i newest older hk
        obtain ⟨newest', hnewest, h⟩ := Option.bind_eq_some_iff.1 h
        cases h
        exact hR.lastRow hk (ih hnewest)
      · exact nomatch h

theorem openTable {name : String} {assignments : List Assignment}
    (hassigned : ∀ a ∈ assignments, Assigned a.value)
    (h : openTable name assignments es = some es') : R es es' := by
  unfold Toml.openTable at h
  split at h
  · obtain ⟨inner, hinner, h⟩ := Option.bind_eq_some_iff.1 h
    cases h
    exact hR.newTable (hR.assignAll hassigned hinner)
  · rename_i inner hname
    obtain ⟨inner', hinner, h⟩ := Option.bind_eq_some_iff.1 h
    cases h
    exact hR.header hname (hR.assignAll hassigned hinner)
  · exact nomatch h

theorem openRow {name : String} {assignments : List Assignment}
    (hassigned : ∀ a ∈ assignments, Assigned a.value)
    (h : openRow name assignments es = some es') : R es es' := by
  unfold Toml.openRow at h
  obtain ⟨row, hrow, h⟩ := Option.bind_eq_some_iff.1 h
  have hnew := hR.assignAll hassigned hrow
  split at h
  · cases h
    exact hR.newRows hnew
  · rename_i newest older hname
    cases h
    exact hR.nextRow hname hnew
  · exact nomatch h

/-- **A stable relation holds between a document before and after its sections.** -/
theorem addSections {sections : List Section}
    (hassigned : ∀ s ∈ sections, ∀ a ∈ s.assignments, Assigned a.value)
    (h : sections.foldlM addSection es = some es') : R es es' := by
  induction sections generalizing es with
  | nil =>
      cases h
      exact hR.refl _
  | cons s rest ih =>
      obtain ⟨hs, hrest⟩ := List.forall_mem_cons.1 hassigned
      obtain ⟨mid, hmid, h⟩ := Option.bind_eq_some_iff.1 h
      refine hR.trans (hR.descend (fun hwork => ?_) hmid) (ih hrest h)
      split at hwork
      · exact hR.openRow hs hwork
      · exact hR.openTable hs hwork

end Stable

/-! ### Values that stand -/

/-- A value stands at the end of some names: below the tables of these names, under the last
one. -/
def Stands (d : Data) (name : String) : List String → Entries → Prop
  | [], es => es.lookup name = some (.value d)
  | k :: ks, es => ∃ origin inner, es.lookup k = some (.table origin inner) ∧ Stands d name ks inner

/-- Every value that stands in the one document stands in the other. -/
def Grows (es es' : Entries) : Prop :=
  ∀ d name path, Stands d name path es → Stands d name path es'

/-- The name that a value is reached by is taken, by something that is no list of rows. -/
theorem Stands.lookup {d : Data} {name : String} {path : List String} {es : Entries}
    (h : Stands d name path es) :
    ∃ k n, es.lookup k = some n ∧ (∀ newest older, n ≠ .rows newest older) ∧
      ∀ {es' : Entries}, es'.lookup k = some n → Stands d name path es' := by
  cases path with
  | nil => exact ⟨name, _, h, fun _ _ => Node.noConfusion, fun h' => h'⟩
  | cons k ks =>
      obtain ⟨origin, inner, hk, hinner⟩ := h
      exact ⟨k, _, hk, fun _ _ => Node.noConfusion, fun h' => ⟨origin, inner, h', hinner⟩⟩

/-- What keeps every entry but those of rows keeps every value. -/
theorem grows_of_lookup {es es' : Entries}
    (h : ∀ k n, es.lookup k = some n → (∀ newest older, n ≠ .rows newest older) →
      es'.lookup k = some n) : Grows es es' := by
  intro d name path hd
  obtain ⟨k, n, hk, hn, hkeep⟩ := hd.lookup
  exact hkeep (h k n hk hn)

theorem grows_append {es added : Entries} : Grows es (es ++ added) := by
  refine grows_of_lookup fun k n hk _ => ?_
  rw [List.lookup_append, hk, Option.some_or]

theorem grows_replace_rows {es : Entries} {name : String} {newest newest' : Entries}
    {older older' : List Entries} (h : es.lookup name = some (.rows newest older)) :
    Grows es (Entries.replace name (.rows newest' older') es) := by
  refine grows_of_lookup fun k n hk hn => ?_
  have hne : k ≠ name := by
    rintro rfl
    exact hn _ _ (Option.some.inj (hk.symm.trans h))
  rw [Entries.lookup_replace_of_ne hne, hk]

/-- A table whose content grows, in a document that keeps all else, makes the document grow. -/
theorem grows_of_table {es es' : Entries} {name : String} {origin origin' : Origin}
    {inner inner' : Entries} (hname : es.lookup name = some (.table origin inner))
    (hname' : es'.lookup name = some (.table origin' inner')) (hinner : Grows inner inner')
    (hother : ∀ k, k ≠ name → es'.lookup k = es.lookup k) : Grows es es' := by
  intro d last path hd
  cases path with
  | nil =>
      have hne : last ≠ name := by
        rintro rfl
        exact nomatch hd.symm.trans hname
      exact (hother last hne).trans hd
  | cons k ks =>
      obtain ⟨origin₀, inner₀, hk, hinner₀⟩ := hd
      by_cases hkn : k = name
      · subst hkn
        cases hk.symm.trans hname
        exact ⟨origin', inner', hname', hinner _ _ _ hinner₀⟩
      · exact ⟨origin₀, inner₀, (hother k hkn).trans hk, hinner₀⟩

/-- **No step changes a value that stands.** -/
theorem stable_grows : Stable (fun _ => True) Grows where
  refl _ _ _ _ h := h
  trans h h' d name path hd := h' d name path (h d name path hd)
  value _ := grows_append
  newTable _ := grows_append
  newRows _ := grows_append
  table hname hinner :=
    grows_of_table hname (Entries.lookup_replace_self (by rw [hname]; rfl)) hinner
      fun _ h => Entries.lookup_replace_of_ne h
  header {es inner inner' name} hname hinner := by
    have hmoved : (Entries.erase name es ++ [(name, Node.table .header inner')]).lookup name
        = some (.table .header inner') := by
      rw [List.lookup_append, Entries.lookup_erase_self, Option.none_or, List.lookup_cons_self]
    refine grows_of_table hname hmoved hinner fun k hk => ?_
    rw [List.lookup_append, Entries.lookup_erase_of_ne hk, List.lookup_cons,
      beq_eq_false_iff_ne.2 hk, List.lookup_nil, Option.or_none]
  lastRow hname _ := grows_replace_rows hname
  nextRow hname _ := grows_replace_rows hname

/-- A value that stands in a table stands in the record that the table becomes. -/
theorem Stands.lookup_toData {d : Data} {name k : String} {es : Entries}
    (h : Stands d name [k] es) :
    ∃ fields, (entriesToData es).lookup k = some (.record fields) ∧ fields.lookup name = some d := by
  obtain ⟨origin, inner, hk, hname⟩ := h
  refine ⟨entriesToData inner, ?_, ?_⟩
  · rw [lookup_entriesToData, hk]
    rfl
  · rw [lookup_entriesToData, show inner.lookup name = some (.value d) from hname]
    rfl

end InvoiceApproval.Toml
