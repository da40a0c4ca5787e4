/-
Conditions that are written and read back.

A condition is written as records only, with the kind of each in front.  That is one of the ways
to spell it, and so it is read back (`spells_toData`), at every depth.  A threshold is written as
a text with all of its digits and keeps its scale.  A zero may have been written with a minus sign,
and is read without it: that is the same number, and nothing else about a condition changes
(`Same`).

A reader of JSON may refuse documents that are nested too deeply.  A condition is written with no
more nesting than any other way to spell it needs (`nesting_toData_le`).  Whatever the limit is,
then: a condition that came out of a document within the limit goes into one within the limit.
-/
import InvoiceApproval.Proofs.Condition.Spelling
import InvoiceApproval.Proofs.Encoding
import InvoiceApproval.Proofs.Leaves

namespace InvoiceApproval

/-! ### How deeply a document is nested -/

namespace Data

mutual

/-- How many lists and records of a document stand one inside the other. -/
def nesting : Data → Nat
  | .null | .bool _ | .number _ | .text _ => 0
  | .list items => nestingOfItems items + 1
  | .record fields => nestingOfFields fields + 1

/-- How deeply the items of a list are nested. -/
def nestingOfItems : List Data → Nat
  | [] => 0
  | d :: ds => max (nesting d) (nestingOfItems ds)

/-- How deeply the fields of a record are nested. -/
def nestingOfFields : List (String × Data) → Nat
  | [] => 0
  | (_, d) :: fields => max (nesting d) (nestingOfFields fields)

end

theorem nesting_le_of_mem {d : Data} {ds : List Data} (h : d ∈ ds) :
    d.nesting ≤ nestingOfItems ds := by
  induction ds with
  | nil => cases h
  | cons d' ds ih =>
      rw [nestingOfItems]
      obtain rfl | h := List.mem_cons.1 h
      · exact Nat.le_max_left ..
      · exact Nat.le_trans (ih h) (Nat.le_max_right ..)

theorem nesting_le_of_lookup {name : String} {d : Data} {fields : List (String × Data)}
    (h : fields.lookup name = some d) : d.nesting ≤ nestingOfFields fields := by
  induction fields with
  | nil => cases h
  | cons field fields ih =>
      obtain ⟨other, d'⟩ := field
      rw [nestingOfFields]
      rw [List.lookup_cons] at h
      split at h
      · cases h
        exact Nat.le_max_left ..
      · exact Nat.le_trans (ih h) (Nat.le_max_right ..)

mutual

/-- What is held is nested like what is held of. -/
theorem nesting_of_held? : (d : Data) → ∀ {e : Data}, d.held? = some e → e.nesting = d.nesting
  | .null, _, h | .bool _, _, h | .text _, _, h => by
    cases h
    rfl
  | .number literal, _, h => by
    obtain ⟨held, -, rfl⟩ := Option.map_eq_some_iff.1 h
    rfl
  | .list items, _, h => by
    obtain ⟨es, hes, rfl⟩ := Option.map_eq_some_iff.1 h
    exact congrArg (· + 1) (nestingOfItems_of_heldItems? items hes)
  | .record fields, _, h => by
    obtain ⟨es, hes, rfl⟩ := Option.map_eq_some_iff.1 h
    exact congrArg (· + 1) (nestingOfFields_of_heldFields? fields hes)

theorem nestingOfItems_of_heldItems? : (ds : List Data) → ∀ {es : List Data},
    heldItems? ds = some es → nestingOfItems es = nestingOfItems ds
  | [], _, h => by
    cases h
    rfl
  | d :: ds, _, h => by
    simp only [heldItems?, Option.bind_eq_bind, Option.bind_eq_some_iff] at h
    obtain ⟨e, he, es, hes, h⟩ := h
    cases h
    rw [nestingOfItems, nestingOfItems, nesting_of_held? d he, nestingOfItems_of_heldItems? ds hes]

theorem nestingOfFields_of_heldFields? : (fields : List (String × Data)) →
    ∀ {es : List (String × Data)},
      heldFields? fields = some es → nestingOfFields es = nestingOfFields fields
  | [], _, h => by
    cases h
    rfl
  | (name, d) :: fields, _, h => by
    simp only [heldFields?, Option.bind_eq_bind, Option.bind_eq_some_iff] at h
    obtain ⟨e, he, es, hes, h⟩ := h
    cases h
    rw [nestingOfFields, nestingOfFields, nesting_of_held? d he,
      nestingOfFields_of_heldFields? fields hes]

end

/-- A document is nested no deeper than a limit, if there is one. -/
def Within (limit : Option Nat) (d : Data) : Prop := ∀ most ∈ limit, d.nesting ≤ most

instance (limit : Option Nat) (d : Data) : Decidable (d.Within limit) :=
  inferInstanceAs (Decidable (∀ most ∈ limit, d.nesting ≤ most))

end Data

namespace Condition

/-! ### What is written -/

/-- A leaf of which a threshold of zero has lost its sign. -/
def dropZeroSign : Condition → Condition
  | .amount comparison threshold => .amount comparison threshold.dropZeroSign
  | leaf => leaf

/-- A condition of which every threshold of zero has lost its sign. -/
def dropZeroSigns (c : Condition) : Condition := c.mapLeaves dropZeroSign

theorem toDataList_eq_map (cs : List Condition) : toDataList cs = cs.map toData := by
  induction cs with
  | nil => rfl
  | cons c cs ih => rw [toDataList, ih, List.map_cons]

/-- What relates each condition to what has become of it relates the lists of them. -/
theorem forall₂_mapLeavesIn {R : Condition → Condition → Prop} {cs : List Condition}
    (h : ∀ c ∈ cs, R c c.dropZeroSigns) : List.Forall₂ R cs (mapLeavesIn dropZeroSign cs) := by
  rw [mapLeavesIn_eq_map, List.forall₂_map_right_iff, List.forall₂_same]
  exact h

theorem forall₂_toDataList {R : Data → Condition → Prop} {cs : List Condition}
    (h : ∀ c ∈ cs, R c.toData c.dropZeroSigns) :
    List.Forall₂ R (toDataList cs) (mapLeavesIn dropZeroSign cs) := by
  rw [toDataList_eq_map, List.forall₂_map_left_iff]
  exact forall₂_mapLeavesIn h

/-- **What is written spells the condition**, however the kinds are told. -/
theorem spells_toData (inner : KindTag) (c : Condition) :
    ∀ tag, Spells inner tag c.toData c.dropZeroSigns := by
  induction c with
  | amount comparison threshold =>
      intro tag
      exact .amount (.tagged rfl rfl rfl rfl) comparison.ofName?_name threshold.readLiteral_own_text
  | department comparison expected =>
      intro tag
      exact .department (.tagged rfl rfl rfl rfl) comparison.ofName?_name expected.ofName?_name
  | managerApproval wanted =>
      intro tag
      exact .managerApproval (.tagged rfl rfl rfl rfl)
  | all parts ih =>
      intro tag
      exact .all (.tagged rfl rfl rfl rfl) (forall₂_toDataList fun c hc => ih c hc inner)
  | any parts ih =>
      intro tag
      exact .any (.tagged rfl rfl rfl rfl) (forall₂_toDataList fun c hc => ih c hc inner)

theorem heldItems?_toDataList {cs : List Condition}
    (h : ∀ c ∈ cs, c.toData.held? = some c.toData) :
    Data.heldItems? (toDataList cs) = some (toDataList cs) := by
  induction cs with
  | nil => rfl
  | cons c cs ih =>
      rw [toDataList, Data.heldItems?, h c (by simp), ih fun d hd => h d (by simp [hd])]
      rfl

theorem held?_branch (kind : String) {ds : List Data} (h : Data.heldItems? ds = some ds) :
    (Data.record [("type", .text kind), ("conditions", .list ds)]).held?
      = some (.record [("type", .text kind), ("conditions", .list ds)]) := by
  simp [Data.held?, Data.heldFields?, h]

/-- There are no numbers in what is written, so nothing changes about it while it is held. -/
theorem held?_toData (c : Condition) : c.toData.held? = some c.toData := by
  induction c with
  | amount comparison threshold => rfl
  | department comparison expected => rfl
  | managerApproval wanted => rfl
  | all parts ih => exact held?_branch "and" (heldItems?_toDataList ih)
  | any parts ih => exact held?_branch "or" (heldItems?_toDataList ih)

theorem writable_toDataList {cs : List Condition} (h : ∀ c ∈ cs, c.toData.Writable) :
    Data.ItemsWritable (toDataList cs) := by
  rw [Data.itemsWritable_iff, toDataList_eq_map, List.forall_mem_map]
  exact h

theorem writable_toData (c : Condition) : c.toData.Writable := by
  induction c with
  | amount comparison threshold => exact ⟨⟨trivial, trivial, trivial, trivial⟩, rfl⟩
  | department comparison expected => exact ⟨⟨trivial, trivial, trivial, trivial⟩, rfl⟩
  | managerApproval wanted => exact ⟨⟨trivial, trivial, trivial⟩, rfl⟩
  | all parts ih => exact ⟨⟨trivial, writable_toDataList ih, trivial⟩, rfl⟩
  | any parts ih => exact ⟨⟨trivial, writable_toDataList ih, trivial⟩, rfl⟩

/-- From what is written of a condition the condition is read, but for the signs of zeros. -/
theorem ofMessage?_toData (c : Condition) : ofMessage? c.toData = some c.dropZeroSigns := by
  rw [ofMessage?, held?_toData]
  exact read?_of_spells (spells_toData .byNameOrPlace c .byName)

/-! ### No nesting is added -/

theorem Tells.nesting_lt {tag : KindTag} {kind : String} {names : List String} {d : Data}
    {values : List Data} (h : Tells tag kind names d values) {value : Data}
    (hvalue : value ∈ values) : value.nesting < d.nesting := by
  cases h with
  | tagged hk hkind honce hvalues =>
      have hlookup := List.mem_map_of_mem (f := some) hvalue
      rw [← hvalues] at hlookup
      obtain ⟨name, -, hname⟩ := List.mem_map.1 hlookup
      exact Nat.lt_succ_of_le (Data.nesting_le_of_lookup hname)
  | listed hkind hlength =>
      exact Nat.lt_succ_of_le (Data.nesting_le_of_mem (List.mem_cons_of_mem _ hvalue))

theorem nestingOfItems_toDataList_le {R : Data → Condition → Prop} {ds : List Data}
    {cs : List Condition} (ih : ∀ c ∈ cs, ∀ {d}, R d c → c.toData.nesting ≤ d.nesting)
    (h : List.Forall₂ R ds cs) : Data.nestingOfItems (toDataList cs) ≤ Data.nestingOfItems ds := by
  induction h with
  | nil => exact Nat.le_refl _
  | cons hd _ ihs =>
      exact max_le_max (ih _ (by simp) hd) (ihs fun c hc => ih c (by simp [hc]))

/-- A branch is nested two levels deeper than its parts: there is a record, and a list in it. -/
theorem Tells.nesting_branch_le {tag : KindTag} {kind : String} {names : List String} {d : Data}
    {ds es : List Data} (h : Tells tag kind names d [.list ds])
    (hparts : Data.nestingOfItems es ≤ Data.nestingOfItems ds) :
    Data.nestingOfItems es + 2 ≤ d.nesting :=
  calc Data.nestingOfItems es + 2
      ≤ Data.nestingOfItems ds + 2 := Nat.add_le_add_right hparts 2
    _ = (Data.list ds).nesting + 1 := rfl
    _ ≤ d.nesting := h.nesting_lt (List.mem_singleton_self _)

/-- No way to spell a condition needs less nesting than the way in which it is written. -/
theorem nesting_toData_le {inner tag : KindTag} {d : Data} {c : Condition}
    (h : Spells inner tag d c) : c.toData.nesting ≤ d.nesting := by
  induction c generalizing tag d with
  | amount comparison threshold =>
      cases h with
      | amount htells => exact Nat.zero_lt_of_lt (htells.nesting_lt (List.mem_cons_self ..))
  | department comparison expected =>
      cases h with
      | department htells => exact Nat.zero_lt_of_lt (htells.nesting_lt (List.mem_cons_self ..))
  | managerApproval wanted =>
      cases h with
      | managerApproval htells => exact Nat.zero_lt_of_lt (htells.nesting_lt (List.mem_cons_self ..))
  | all parts ih =>
      cases h with
      | all htells hds =>
          exact htells.nesting_branch_le (nestingOfItems_toDataList_le (fun c hc => ih c hc) hds)
  | any parts ih =>
      cases h with
      | any htells hds =>
          exact htells.nesting_branch_le (nestingOfItems_toDataList_le (fun c hc => ih c hc) hds)

/-! ### Conditions that are the same -/

/-- Two conditions that are the same: the trees have one shape, thresholds are equal, with the same
digits and the same scale, and so is everything else. -/
inductive Same : Condition → Condition → Prop
  | amount (comparison : Comparison) {t s : Decimal} :
    s.compare t = .eq → s.magnitude = t.magnitude → s.scale = t.scale →
      Same (.amount comparison t) (.amount comparison s)
  | department (comparison : Comparison) (expected : Department) :
    Same (.department comparison expected) (.department comparison expected)
  | managerApproval (wanted : Bool) : Same (.managerApproval wanted) (.managerApproval wanted)
  | all {cs ds : List Condition} : List.Forall₂ Same cs ds → Same (.all cs) (.all ds)
  | any {cs ds : List Condition} : List.Forall₂ Same cs ds → Same (.any cs) (.any ds)

theorem same_dropZeroSigns (c : Condition) : c.Same c.dropZeroSigns := by
  induction c with
  | amount comparison threshold =>
      refine .amount comparison ?_ rfl rfl
      rw [Decimal.compare_eq, Decimal.value_dropZeroSign, compare_eq_iff_eq]
  | department comparison expected => exact .department comparison expected
  | managerApproval wanted => exact .managerApproval wanted
  | all parts ih => exact .all (forall₂_mapLeavesIn ih)
  | any parts ih => exact .any (forall₂_mapLeavesIn ih)

/-- No threshold of a condition is a zero with a minus sign. -/
def Signed (c : Condition) : Prop :=
  ∀ comparison threshold, .amount comparison threshold ∈ c.leaves → threshold.Signed

theorem dropZeroSigns_eq_self_iff {c : Condition} : c.dropZeroSigns = c ↔ c.Signed := by
  rw [dropZeroSigns, mapLeaves_eq_self_iff]
  constructor
  · intro h comparison threshold hleaf
    have heq := h _ hleaf
    rw [dropZeroSign, amount.injEq] at heq
    exact threshold.dropZeroSign_eq_self_iff.1 heq.2
  · intro h leaf hleaf
    cases leaf with
    | amount comparison threshold =>
        rw [dropZeroSign, threshold.dropZeroSign_eq_self_iff.2 (h comparison threshold hleaf)]
    | _ => rfl

/-! ### Texts -/

/-- The condition that a text holds, as it is read from a message.  A limit, if there is one, is
the deepest nesting that the reader of JSON takes. -/
def ofJson? (limit : Option Nat) (text : String) : Option Condition := do
  let d ← Data.ofJson? text
  if d.Within limit then ofMessage? d else none

theorem ofJson?_eq_some_iff {limit : Option Nat} {text : String} {c : Condition} :
    ofJson? limit text = some c
      ↔ ∃ d, Data.ofJson? text = some d ∧ d.Within limit ∧ ofMessage? d = some c := by
  simp only [ofJson?, Option.bind_eq_bind, Option.bind_eq_some_iff, Option.ite_none_right_eq_some]

/-- A text is JSON and holds a condition, within the limit of a reader: the condition that is read
from it is the same, and identical unless a threshold is a zero with a sign. -/
structure HeldBy (limit : Option Nat) (c : Condition) (text : String) : Prop where
  json : JsonText text c.toData
  same : ∃ c', ofJson? limit text = some c' ∧ c.Same c'
  identical : ofJson? limit text = some c ↔ c.Signed

theorem heldBy_of_jsonText {limit : Option Nat} {c : Condition} {text : String}
    (hlimit : c.toData.Within limit) (h : JsonText text c.toData) : c.HeldBy limit text := by
  have hread : ofJson? limit text = some c.dropZeroSigns :=
    ofJson?_eq_some_iff.2 ⟨_, h.read, hlimit, c.ofMessage?_toData⟩
  refine ⟨h, ⟨_, hread, c.same_dropZeroSigns⟩, ?_⟩
  rw [hread, Option.some_inj, dropZeroSigns_eq_self_iff]

/-- What a condition is read from within a limit leaves room for what is written of it. -/
theorem within_toData {limit : Option Nat} {d : Data} {c : Condition} (h : ofMessage? d = some c)
    (hlimit : d.Within limit) : c.toData.Within limit := by
  intro most hmost
  obtain ⟨e, he, hread⟩ := Option.bind_eq_some_iff.1 h
  calc c.toData.nesting
      ≤ e.nesting := nesting_toData_le (read?_eq_some_iff.1 hread)
    _ = d.nesting := d.nesting_of_held? he
    _ ≤ most := hlimit most hmost

/--
**Conditions read back.**

Whatever limit of nesting the reader has, every condition that can be written within it is read
back from both of its texts.  A text is accepted exactly if its document is within the limit and,
once it has been held, spells a condition, in the ways of `Spells` freely mixed.  And whatever
condition comes out of a text, it is read back in the same way from what is written of it.
-/
theorem conditions_read_back (limit : Option Nat) :
    (∀ c : Condition, c.toData.Within limit →
      c.HeldBy limit c.toData.toJson ∧ c.HeldBy limit c.toData.toIndentedJson) ∧
    (∀ text c, ofJson? limit text = some c ↔
      ∃ d e, Data.ofJson? text = some d ∧ d.Within limit ∧ d.held? = some e ∧
        Spells .byNameOrPlace .byName e c) ∧
    ∀ text c, ofJson? limit text = some c →
      c.HeldBy limit c.toData.toJson ∧ c.HeldBy limit c.toData.toIndentedJson := by
  have hwritten (c : Condition) (h : c.toData.Within limit) :
      c.HeldBy limit c.toData.toJson ∧ c.HeldBy limit c.toData.toIndentedJson :=
    ⟨heldBy_of_jsonText h (jsonText_toJson c.writable_toData),
      heldBy_of_jsonText h (jsonText_toIndentedJson c.writable_toData)⟩
  refine ⟨hwritten, ?_, ?_⟩
  · intro text c
    rw [ofJson?_eq_some_iff]
    constructor
    · rintro ⟨d, hd, hlimit, hread⟩
      obtain ⟨e, he, hread⟩ := Option.bind_eq_some_iff.1 hread
      exact ⟨d, e, hd, hlimit, he, read?_eq_some_iff.1 hread⟩
    · rintro ⟨d, e, hd, hlimit, he, hspells⟩
      exact ⟨d, hd, hlimit, Option.bind_eq_some_iff.2 ⟨e, he, read?_eq_some_iff.2 hspells⟩⟩
  · intro text c h
    obtain ⟨d, -, hlimit, hread⟩ := ofJson?_eq_some_iff.1 h
    exact hwritten c (within_toData hread hlimit)

/-- A text that spells a condition in mixed ways: the kind stands behind the parts, or in front of
a list, or is told by its place, and a field says nothing. -/
def mixedText : String :=
  "\x7b\"note\":null,\"conditions\":[[\"amount\",\"less_than\",12.500],"
    ++ "\x7b\"required\":true,\"type\":2\x7d],\"type\":\"or\"\x7d"

/-- The condition in it. -/
def mixed : Condition :=
  .any [.amount .lessThan ⟨false, 12500, 3, by decide, by decide⟩, .managerApproval true]

/-- The threshold of twelve and a half keeps its three places, and three levels are enough for the
condition both ways. -/
theorem conditions_read_back_mixed :
    ofJson? (some 3) mixedText = some mixed ∧ mixed.toData.Within (some 3) ∧
      mixed.HeldBy (some 3) mixed.toData.toJson ∧
      mixed.HeldBy (some 3) mixed.toData.toIndentedJson := by
  have hread : ofJson? (some 3) mixedText = some mixed := by decide +kernel
  have hlimit : mixed.toData.Within (some 3) := by decide +kernel
  obtain ⟨hwritten, -, haccepted⟩ := conditions_read_back (some 3)
  exact ⟨hread, hlimit, (hwritten mixed hlimit).1, (haccepted mixedText mixed hread).2⟩

end Condition

end InvoiceApproval
