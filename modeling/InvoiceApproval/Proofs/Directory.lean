/-
What a directory holds.

A directory is made by entering the approvers of a list one after the other, and ids may come up
more than once.  Two facts say what one entry does: which ids there are afterwards, and in which
order (`map_id_insert`), and who is found by an id (`find?_insert`).  From them it follows what
comes of a whole list.  The ids stand in the order in which they first come up, and the approver
of an id is the last one of the list who has it (`map_id_ofList`, `find?_ofList`).

The places that are noted beside the row are never wrong on the way: a directory cannot be made
without the proof that row and notes agree.  So no look-up leaves the row, nor does an entry that
replaces somebody.

A catalog that has been read names nobody twice.  Its directory is just its list of approvers,
and every one of its rules is found by its id.
-/
import InvoiceApproval.Proofs.Catalog.Faults

namespace InvoiceApproval

namespace Directory

variable {d : Directory} {a : Approver}

/-! ### One entry -/

/-- An entry adds the id of the approver behind all others, unless it is there already. -/
theorem map_id_insert (d : Directory) (a : Approver) :
    (d.insert a).approvers.map (·.id) = if a.id ∈ d.approvers.map (·.id)
      then d.approvers.map (·.id) else d.approvers.map (·.id) ++ [a.id] := by
  cases hplace : d.places.lookup a.id with
  | some place =>
      have hmem := List.mem_of_getElem? ((d.lookup_places_iff _ _).1 hplace)
      rw [if_pos hmem, approvers_insert_of_some hplace, map_id_set hplace]
  | none =>
      rw [if_neg (lookup_places_eq_none_iff.1 hplace), approvers_insert_of_none hplace,
        List.map_append, List.map_singleton]

/-- Who is there after an entry: the approver who was entered, and everybody with another id. -/
theorem mem_insert {b : Approver} :
    b ∈ (d.insert a).approvers ↔ b = a ∨ b ∈ d.approvers ∧ b.id ≠ a.id := by
  cases hplace : d.places.lookup a.id with
  | some place =>
      -- The place of `b` is the noted one exactly if `b` has the id of `a`.
      have hsame : ∀ i, d.approvers[i]? = some b → (place = i ↔ b.id = a.id) := by
        intro i hi
        have hnoted := d.lookup_places_iff a.id i
        rw [hplace, List.getElem?_map, hi, Option.map_some, Option.some_inj, Option.some_inj]
          at hnoted
        exact hnoted
      rw [approvers_insert_of_some hplace, List.mem_iff_getElem?, List.mem_iff_getElem?]
      constructor
      · rintro ⟨i, hi⟩
        by_cases hi' : place = i
        · rw [hi', List.getElem?_set_self (hi' ▸ lt_of_lookup hplace)] at hi
          exact .inl (Option.some.inj hi).symm
        · rw [List.getElem?_set_ne hi'] at hi
          exact .inr ⟨⟨i, hi⟩, mt (hsame i hi).2 hi'⟩
      · rintro (rfl | ⟨⟨i, hi⟩, hne⟩)
        · exact ⟨place, List.getElem?_set_self (lt_of_lookup hplace)⟩
        · exact ⟨i, (List.getElem?_set_ne (mt (hsame i hi).1 hne)).trans hi⟩
  | none =>
      have hnew := lookup_places_eq_none_iff.1 hplace
      rw [approvers_insert_of_none hplace, List.mem_append, List.mem_singleton, or_comm]
      refine or_congr_right ⟨fun hb => ⟨hb, fun hid => hnew ?_⟩, And.left⟩
      exact hid ▸ List.mem_map_of_mem hb

/-- After an entry the approver is found by the id, and nothing else changes. -/
theorem find?_insert (d : Directory) (a : Approver) (id : String) :
    (d.insert a).find? id = if a.id = id then some a else d.find? id := by
  ext b
  rw [find?_eq_some_iff, mem_insert]
  split
  · rename_i hid
    subst hid
    constructor
    · rintro ⟨rfl | ⟨-, hne⟩, hid⟩
      · rfl
      · exact absurd hid hne
    · rintro ⟨⟩
      exact ⟨.inl rfl, rfl⟩
  · rename_i hne
    rw [find?_eq_some_iff]
    constructor
    · rintro ⟨rfl | ⟨hmem, -⟩, hid⟩
      · exact absurd hid hne
      · exact ⟨hmem, hid⟩
    · rintro ⟨hmem, rfl⟩
      exact ⟨.inr ⟨hmem, Ne.symm hne⟩, rfl⟩

/-! ### A whole list -/

/-- The last approver of an id in a list. -/
def lastOf (as : List Approver) (id : String) : Option Approver :=
  (as.filter (·.id == id)).getLast?

theorem lastOf_append_singleton (as : List Approver) (a : Approver) (id : String) :
    lastOf (as ++ [a]) id = if a.id = id then some a else lastOf as id := by
  unfold lastOf
  rw [List.filter_append]
  by_cases h : a.id = id <;> simp [h]

theorem ofList_append_singleton (as : List Approver) (a : Approver) :
    ofList (as ++ [a]) = (ofList as).insert a := by
  rw [ofList, List.foldl_append]
  rfl

theorem eraseDups_append_singleton (ids : List String) (id : String) :
    (ids ++ [id]).eraseDups = if id ∈ ids then ids.eraseDups else ids.eraseDups ++ [id] := by
  rw [List.eraseDups_append]
  by_cases h : id ∈ ids <;> simp [List.removeAll, List.eraseDups_cons, h]

/-- **The ids stand in the order in which they first come up.** -/
theorem map_id_ofList (as : List Approver) :
    (ofList as).approvers.map (·.id) = (as.map (·.id)).eraseDups := by
  induction as using List.reverseRecOn with
  | nil => rfl
  | append_singleton as a ih =>
      rw [ofList_append_singleton, map_id_insert, ih, List.map_append, List.map_singleton,
        eraseDups_append_singleton]
      simp only [List.mem_eraseDups]

/-- **An id finds the last approver of the list who has it.** -/
theorem find?_ofList (as : List Approver) (id : String) :
    (ofList as).find? id = lastOf as id := by
  induction as using List.reverseRecOn with
  | nil => rfl
  | append_singleton as a ih =>
      rw [ofList_append_singleton, find?_insert, lastOf_append_singleton, ih]

end Directory

/-! ### Rules by their ids -/

/-- Where rules have different ids, each is found by its own. -/
theorem Configuration.rule?_eq_some_iff {c : Configuration} (h : (c.rules.map (·.id)).Nodup)
    {id : String} {rule : Rule} : c.rule? id = some rule ↔ rule ∈ c.rules ∧ rule.id = id := by
  unfold rule?
  constructor
  · intro hfind
    exact ⟨List.mem_of_find?_eq_some hfind, by simpa using List.find?_some hfind⟩
  · rintro ⟨hmem, rfl⟩
    obtain ⟨other, hother⟩ := Option.isSome_iff_exists.1
      (List.find?_isSome (p := (·.id == rule.id)).2 ⟨rule, hmem, beq_self_eq_true rule.id⟩)
    have hid : other.id = rule.id := by simpa using List.find?_some hother
    rw [hother, List.inj_on_of_nodup_map h (List.mem_of_find?_eq_some hother) hmem hid]

namespace Directory

/--
**A directory holds the last approver of every id, in the order in which the ids first come up.**

Whatever list it is made of, ids repeated or not, each place that is noted lies in the row and is
the place of the approver who has the id, and everybody's place is noted.  An id finds the last
approver of the list who has it, and several ids find theirs one by one, in the order asked for and
as often as they are asked for; the approvers of a department and the managers come in the order
of the row.  A catalog that has been read repeats no id: its directory holds its approvers as they
are, and its rules are found by their ids.
-/
theorem ofList_holds_last (as : List Approver) :
    (∀ id place, (ofList as).places.lookup id = some place ↔
      ∃ h : place < (ofList as).approvers.length, ((ofList as).approvers.get ⟨place, h⟩).id = id) ∧
    ((ofList as).approvers.map (·.id)).Nodup ∧
    (ofList as).approvers.map (·.id) = (as.map (·.id)).eraseDups ∧
    (∀ a ∈ (ofList as).approvers, lastOf as a.id = some a) ∧
    (∀ id, (ofList as).find? id = lastOf as id) ∧
    (∀ ids, (ofList as).resolve ids = ids.filterMap (lastOf as)) ∧
    (∀ department, (ofList as).ofDepartment department
      = (ofList as).approvers.filter fun a => decide (a.department = some department)) ∧
    (ofList as).managers = (ofList as).approvers.filter (·.isManager) ∧
    ∀ raw origin strict j left c, (Catalog.parse raw origin strict).run j = (.ok c, left) →
      c.directory.approvers = c.approvers ∧
      ∀ id rule, c.configuration.rule? id = some rule
        ↔ rule ∈ c.configuration.rules ∧ rule.id = id := by
  refine ⟨?_, ids_nodup _, map_id_ofList as, ?_, find?_ofList as, ?_, ?_, rfl, ?_⟩
  · intro id place
    rw [(ofList as).lookup_places_iff, List.getElem?_eq_some_iff]
    simp
  · intro a ha
    rw [← find?_ofList]
    exact find?_eq_some_iff.2 ⟨ha, rfl⟩
  · intro ids
    rw [resolve, funext (find?_ofList as)]
  · intro department
    refine List.filter_congr fun a _ => ?_
    rw [Approver.belongsTo, Bool.eq_iff_iff, beq_iff_eq, decide_eq_true_iff]
  · intro raw origin strict j left c hparse
    obtain ⟨-, hwell, -⟩ := Catalog.parse_run_eq_ok_iff.1 hparse
    exact ⟨approvers_ofList hwell.approvers_distinct,
      fun id rule => Configuration.rule?_eq_some_iff hwell.rules_distinct⟩

/-- Of three approvers two share an id: the later one stands in the first place.  And a catalog of
one rule has the built-in approvers, with the rule under its id. -/
theorem ofList_holds_last_replaced :
    let replaced : Approver := ⟨"a", "First", "a@co", none, false⟩
    let other : Approver := ⟨"b", "Second", "b@co", some .hr, false⟩
    let last : Approver := ⟨"a", "Replacement", "a2@co", none, true⟩
    let d := ofList [replaced, other, last]
    d.approvers = [last, other] ∧ d.find? "a" = some last ∧
      d.resolve ["b", "nobody", "a", "b"] = [other, last, other] ∧
      (Catalog.parse (Catalog.oneRuleText "\"cfo\"") "inline" true).run Journal.empty
        = (.ok (Catalog.ofOneRule ["cfo"]), Journal.empty) ∧
      (Catalog.ofOneRule ["cfo"]).directory.approvers = Seed.approvers ∧
      (Catalog.ofOneRule ["cfo"]).configuration.rule? "all"
        = some ⟨"all", "All", "", .all [], ["cfo"], 0, .unfiltered⟩ := by
  intro replaced other last d
  obtain ⟨-, -, -, -, hfind, hresolve, -, -, hcatalog⟩ := ofList_holds_last [replaced, other, last]
  have hparse : (Catalog.parse (Catalog.oneRuleText "\"cfo\"") "inline" true).run Journal.empty
      = (.ok (Catalog.ofOneRule ["cfo"]), Journal.empty) :=
    Catalog.parse_eq_ok_iff.2 ⟨by decide +kernel, rfl⟩
  obtain ⟨happrovers, hrule⟩ := hcatalog _ _ _ _ _ _ hparse
  exact ⟨rfl, (hfind "a").trans rfl, (hresolve _).trans rfl, hparse, happrovers,
    (hrule _ _).2 ⟨List.mem_singleton_self _, rfl⟩⟩

end Directory

end InvoiceApproval
