/-
How a condition may be spelled.

A document tells the kind of a condition and the values that this kind needs.  It may be a record:
then the kind stands in the field `type`, each value stands under its name, none of these names
is there twice, the order does not matter, and further fields say nothing.  Or it is a list of the
kind and the values, in their order.  `Tells` is both, and all five kinds are spelled with it.  The
conditions in a branch choose for themselves, so the two ways may change at every level of the tree
(`Spells`).

The reader knows nothing of this relation and goes by the shape of the document.  It reads a
condition exactly if the document spells it (`read?_eq_some_iff`).
-/
import InvoiceApproval.Condition.Codec
import Mathlib.Data.List.Forall2

namespace InvoiceApproval

namespace Condition

/-- A document tells a kind and the values of the fields with these names. -/
inductive Tells (tag : KindTag) (kind : String) (names : List String) :
    Data → List Data → Prop
  /-- A record may have its fields in any order, and more of them. -/
  | tagged {fields : List (String × Data)} {k : Data} {values : List Data} :
    fields.lookup "type" = some k → kind? tag k = some kind →
      ("type" :: names).all (Data.isUnrepeated fields) = true →
      names.map (fun name => fields.lookup name) = values.map some →
      Tells tag kind names (.record fields) values
  | listed {k : Data} {values : List Data} :
    kind? tag k = some kind → values.length = names.length →
      Tells tag kind names (.list (k :: values)) values

/-- A document spells a condition, given how its kind is told and how the kinds of the conditions
in it are. -/
inductive Spells (inner : KindTag) : KindTag → Data → Condition → Prop
  | amount {tag : KindTag} {d o t : Data} {comparison : Comparison} {threshold : Decimal} :
    Tells tag "amount" ["operator", "threshold"] d [o, t] → comparisonOf? o = some comparison →
      Decimal.ofData? t = some threshold → Spells inner tag d (.amount comparison threshold)
  | department {tag : KindTag} {d o e : Data} {comparison : Comparison} {expected : Department} :
    Tells tag "department" ["operator", "department"] d [o, e] →
      comparisonOf? o = some comparison → departmentOf? e = some expected →
      Spells inner tag d (.department comparison expected)
  | managerApproval {tag : KindTag} {d : Data} {wanted : Bool} :
    Tells tag "manager_approval" ["required"] d [.bool wanted] →
      Spells inner tag d (.managerApproval wanted)
  | all {tag : KindTag} {d : Data} {ds : List Data} {parts : List Condition} :
    Tells tag "and" ["conditions"] d [.list ds] → List.Forall₂ (Spells inner inner) ds parts →
      Spells inner tag d (.all parts)
  | any {tag : KindTag} {d : Data} {ds : List Data} {parts : List Condition} :
    Tells tag "or" ["conditions"] d [.list ds] → List.Forall₂ (Spells inner inner) ds parts →
      Spells inner tag d (.any parts)

variable {tag inner : KindTag} {d : Data}

/-! ### What the reader takes -/

theorem spells_of_leaf? {kind : String} {first second : Option Data} {c : Condition}
    (h : leaf? kind first second = some c)
    (hamount : ∀ o t, kind = "amount" → first = some o → second = some t →
      Tells tag "amount" ["operator", "threshold"] d [o, t])
    (hdepartment : ∀ o e, kind = "department" → first = some o → second = some e →
      Tells tag "department" ["operator", "department"] d [o, e]) : Spells inner tag d c := by
  unfold leaf? at h
  split at h
  · simp only [Option.bind_eq_bind, Option.bind_eq_some_iff] at h
    obtain ⟨comparison, ⟨o, hfirst, ho⟩, threshold, ⟨t, hsecond, ht⟩, h⟩ := h
    cases h
    exact .amount (hamount o t rfl hfirst hsecond) ho ht
  · simp only [Option.bind_eq_bind, Option.bind_eq_some_iff] at h
    obtain ⟨comparison, ⟨o, hfirst, ho⟩, expected, ⟨e, hsecond, he⟩, h⟩ := h
    cases h
    exact .department (hdepartment o e rfl hfirst hsecond) ho he
  · cases h

theorem spells_of_branch? {kind : String} {parts : Option (List Condition)} {c : Condition}
    (h : branch? kind parts = some c)
    (hparts : ∀ cs, parts = some cs → ∃ ds, Tells tag kind ["conditions"] d [.list ds] ∧
      List.Forall₂ (Spells inner inner) ds cs) : Spells inner tag d c := by
  unfold branch? at h
  split at h
  · obtain ⟨cs, hcs, rfl⟩ := Option.map_eq_some_iff.1 h
    obtain ⟨ds, htells, hds⟩ := hparts cs hcs
    exact .all htells hds
  · obtain ⟨cs, hcs, rfl⟩ := Option.map_eq_some_iff.1 h
    obtain ⟨ds, htells, hds⟩ := hparts cs hcs
    exact .any htells hds
  · cases h

/-- A record that is read in one of the five ways tells what it is read as. -/
theorem spells_of_ofFields? {kind : String} {fields : List (String × Data)} {k : Data}
    {parts : Option (List Condition)} {c : Condition}
    (hk : fields.lookup "type" = some k) (hkind : kind? tag k = some kind)
    (honce : ("type" :: namesOf kind).all (Data.isUnrepeated fields) = true)
    (hparts : ∀ cs, parts = some cs → ∃ ds, fields.lookup "conditions" = some (.list ds) ∧
      List.Forall₂ (Spells inner inner) ds cs)
    (h : ofFields? kind fields parts = some c) : Spells inner tag (.record fields) c := by
  unfold ofFields? at h
  split at h
  · refine spells_of_leaf? h ?_ nofun
    intro o t _ ho ht
    exact .tagged hk hkind honce (by simp [ho, ht])
  · refine spells_of_leaf? h nofun ?_
    intro o e _ ho he
    exact .tagged hk hkind honce (by simp [ho, he])
  · obtain ⟨wanted, hwanted, rfl⟩ := Option.map_eq_some_iff.1 h
    obtain ⟨w, hw, hbool⟩ := Option.bind_eq_some_iff.1 hwanted
    cases w with
    | bool b =>
        cases hbool
        exact .managerApproval (.tagged hk hkind honce (by simp [hw]))
    | _ => cases hbool
  · rename_i hamount hdepartment hmanager
    have hnames : namesOf kind = ["conditions"] := by
      rw [namesOf]
      · exact hamount
      · exact hdepartment
      · exact hmanager
    rw [hnames] at honce
    refine spells_of_branch? h ?_
    intro cs hcs
    obtain ⟨ds, hlookup, hds⟩ := hparts cs hcs
    exact ⟨ds, .tagged hk hkind honce (by simp [hlookup]), hds⟩

mutual

theorem spells_of_read? (tag : KindTag) : (d : Data) → ∀ {c : Condition},
    read? tag inner d = some c → Spells inner tag d c
  | .record fields, c, h => by
    rw [read?, Option.bind_eq_bind, Option.bind_eq_some_iff] at h
    obtain ⟨kind, hkind, h⟩ := h
    obtain ⟨k, hk, hkind⟩ := Option.bind_eq_some_iff.1 hkind
    obtain ⟨honce, h⟩ := Option.ite_none_right_eq_some.1 h
    exact spells_of_ofFields? hk hkind honce (fun _ => spells_of_partsField? fields) h
  | .list [k, first, second], c, h => by
    rw [read?, Option.bind_eq_bind, Option.bind_eq_some_iff] at h
    obtain ⟨kind, hkind, h⟩ := h
    refine spells_of_leaf? h ?_ ?_
    · rintro o t rfl ⟨⟩ ⟨⟩
      exact .listed hkind rfl
    · rintro o e rfl ⟨⟩ ⟨⟩
      exact .listed hkind rfl
  | .list [k, .bool wanted], c, h => by
    rw [read?, Option.bind_eq_bind, Option.bind_eq_some_iff] at h
    obtain ⟨kind, hkind, h⟩ := h
    obtain ⟨rfl, h⟩ := Option.ite_none_right_eq_some.1 h
    cases h
    exact .managerApproval (.listed hkind rfl)
  | .list [k, .list parts], c, h => by
    rw [read?, Option.bind_eq_bind, Option.bind_eq_some_iff] at h
    obtain ⟨kind, hkind, h⟩ := h
    refine spells_of_branch? h ?_
    intro cs hcs
    exact ⟨parts, .listed hkind rfl, spells_of_readList? parts hcs⟩
  | .list [], _, h | .list [_], _, h | .list (_ :: _ :: _ :: _ :: _), _, h
  | .list [_, .null], _, h | .list [_, .number _], _, h | .list [_, .text _], _, h
  | .list [_, .record _], _, h => by simp [read?] at h
  | .null, _, h | .bool _, _, h | .number _, _, h | .text _, _, h => by simp [read?] at h

/-- The conditions in the field of that name are spelled there. -/
theorem spells_of_partsField? : (fields : List (String × Data)) → ∀ {parts : List Condition},
    partsField? inner fields = some parts →
      ∃ ds, fields.lookup "conditions" = some (.list ds) ∧
        List.Forall₂ (Spells inner inner) ds parts
  | [], _, h => by simp [partsField?] at h
  | (name, d) :: fields, parts, h => by
    rw [partsField?] at h
    rw [List.lookup_cons]
    by_cases hname : name = "conditions"
    · subst hname
      obtain ⟨ds, rfl, hds⟩ := spells_of_parts? d h
      exact ⟨ds, rfl, hds⟩
    · rw [if_neg hname] at h
      rw [beq_false_of_ne (Ne.symm hname)]
      exact spells_of_partsField? fields h

theorem spells_of_parts? : (d : Data) → ∀ {parts : List Condition},
    parts? inner d = some parts → ∃ ds, d = .list ds ∧ List.Forall₂ (Spells inner inner) ds parts
  | .list ds, _, h => ⟨ds, rfl, spells_of_readList? ds h⟩
  | .null, _, h | .bool _, _, h | .number _, _, h | .text _, _, h | .record _, _, h => by
    simp [parts?] at h

theorem spells_of_readList? : (ds : List Data) → ∀ {parts : List Condition},
    readList? inner ds = some parts → List.Forall₂ (Spells inner inner) ds parts
  | [], _, h => by
    cases h
    exact .nil
  | d :: ds, _, h => by
    simp only [readList?, Option.bind_eq_bind, Option.bind_eq_some_iff] at h
    obtain ⟨c, hc, cs, hcs, h⟩ := h
    cases h
    exact .cons (spells_of_read? inner d hc) (spells_of_readList? ds hcs)

end

/-! ### What is spelled is read -/

theorem partsField?_of_lookup {fields : List (String × Data)} {ds : List Data}
    (h : fields.lookup "conditions" = some (.list ds)) :
    partsField? inner fields = readList? inner ds := by
  induction fields with
  | nil => cases h
  | cons field fields ih =>
      obtain ⟨name, d⟩ := field
      rw [List.lookup_cons] at h
      rw [partsField?]
      by_cases hname : name = "conditions"
      · subst hname
        cases h
        rfl
      · rw [beq_false_of_ne (Ne.symm hname)] at h
        rw [if_neg hname, ih h]

/-- A record of a kind is read by its fields, if none of them is there twice. -/
theorem read?_record {fields : List (String × Data)} {kind : String} {k : Data}
    (hk : fields.lookup "type" = some k) (hkind : kind? tag k = some kind)
    (honce : ("type" :: namesOf kind).all (Data.isUnrepeated fields) = true) :
    read? tag inner (.record fields) = ofFields? kind fields (partsField? inner fields) := by
  rw [read?, hk, Option.bind_some, hkind]
  exact if_pos honce

/-- What a branch reads in its parts, given that each part is read. -/
theorem readList?_of_spells {ds : List Data} {parts : List Condition}
    (ih : ∀ c ∈ parts, ∀ {tag d}, Spells inner tag d c → read? tag inner d = some c)
    (h : List.Forall₂ (Spells inner inner) ds parts) : readList? inner ds = some parts := by
  induction h with
  | nil => rfl
  | cons hd _ ihs =>
      rw [readList?, ih _ (by simp) hd, ihs fun c hc => ih c (by simp [hc])]
      rfl

theorem read?_of_tells {kind : String} (hbranch : kind = "and" ∨ kind = "or") {ds : List Data}
    {parts : List Condition} (htells : Tells tag kind ["conditions"] d [.list ds])
    (hds : readList? inner ds = some parts) :
    read? tag inner d = branch? kind (some parts) := by
  cases htells with
  | tagged hk hkind honce hvalues =>
      simp only [List.map_cons, List.cons.injEq] at hvalues
      obtain ⟨hlookup, -⟩ := hvalues
      obtain rfl | rfl := hbranch <;>
        rw [read?_record hk hkind honce, partsField?_of_lookup hlookup, hds] <;> rfl
  | listed hkind => simp [read?, hkind, hds]

theorem read?_of_spells {c : Condition} (h : Spells inner tag d c) :
    read? tag inner d = some c := by
  induction c generalizing tag d with
  | amount comparison threshold =>
      cases h with
      | amount htells ho ht =>
          cases htells with
          | tagged hk hkind honce hvalues =>
              simp only [List.map_cons, List.cons.injEq] at hvalues
              obtain ⟨hfirst, hsecond, -⟩ := hvalues
              rw [read?_record hk hkind honce]
              simp [ofFields?, leaf?, hfirst, hsecond, ho, ht]
          | listed hkind => simp [read?, hkind, leaf?, ho, ht]
  | department comparison expected =>
      cases h with
      | department htells ho he =>
          cases htells with
          | tagged hk hkind honce hvalues =>
              simp only [List.map_cons, List.cons.injEq] at hvalues
              obtain ⟨hfirst, hsecond, -⟩ := hvalues
              rw [read?_record hk hkind honce]
              simp [ofFields?, leaf?, hfirst, hsecond, ho, he]
          | listed hkind => simp [read?, hkind, leaf?, ho, he]
  | managerApproval wanted =>
      cases h with
      | managerApproval htells =>
          cases htells with
          | tagged hk hkind honce hvalues =>
              simp only [List.map_cons, List.cons.injEq] at hvalues
              obtain ⟨hrequired, -⟩ := hvalues
              rw [read?_record hk hkind honce]
              simp [ofFields?, hrequired, Data.bool?]
          | listed hkind => simp [read?, hkind]
  | all parts ih =>
      cases h with
      | all htells hds => exact read?_of_tells (.inl rfl) htells (readList?_of_spells ih hds)
  | any parts ih =>
      cases h with
      | any htells hds => exact read?_of_tells (.inr rfl) htells (readList?_of_spells ih hds)

/-- **A condition is read exactly where it is spelled.** -/
theorem read?_eq_some_iff {c : Condition} : read? tag inner d = some c ↔ Spells inner tag d c :=
  ⟨spells_of_read? tag d, read?_of_spells⟩

end Condition

end InvoiceApproval
