/-
What a text becomes when its placeholders are filled.

A text in which no placeholder begins stays as it is (`fill_of_not_opens`).  A placeholder
between two such texts is replaced by the value of its variable, and the value is taken as it is,
whatever stands in it (`fill_placeholder`).
-/
import InvoiceApproval.Settings.Interpolation
import Mathlib.Data.List.Basic

namespace InvoiceApproval

namespace Interpolation

variable {value? : String → Option String}

/-- A text holds a placeholder, or what begins one. -/
def Opens (cs : List Char) : Prop := ['$', '{'] <:+: cs

/-- **Where no placeholder begins, nothing is filled in.** -/
theorem fill_of_not_opens {cs : List Char} (h : ¬ Opens cs) : fill value? none cs = .ok cs := by
  induction cs with
  | nil => rfl
  | cons c rest ih =>
      have hrest : ¬ Opens rest := fun ⟨front, back, hopen⟩ => h ⟨c :: front, back, by simp [← hopen]⟩
      have hplain : ∀ behind, c = '$' → rest = '{' :: behind → False := by
        rintro behind rfl rfl
        exact h ⟨[], behind, rfl⟩
      rw [fill, ih hrest]
      · rfl
      · exact hplain

theorem not_opens_of_notMem {cs : List Char} (h : '$' ∉ cs) : ¬ Opens cs :=
  fun hopens => h (hopens.subset List.mem_cons_self)

/-- A front without a dollar sign is passed over. -/
theorem fill_append {front rest filled : List Char} (hfront : '$' ∉ front)
    (h : fill value? none rest = .ok filled) :
    fill value? none (front ++ rest) = .ok (front ++ filled) := by
  induction front with
  | nil => exact h
  | cons c front ih =>
      rw [List.mem_cons, not_or] at hfront
      rw [List.cons_append, fill, ih hfront.2]
      · rfl
      · rintro behind rfl
        exact absurd rfl hfront.1

/-- A name runs to the first closing brace. -/
theorem fill_name {name taken rest : List Char} (hname : '}' ∉ name) :
    fill value? (some taken) (name ++ '}' :: rest)
      = (valueOf value? (name.reverse ++ taken)).bind fun value =>
          before value (fill value? none rest) := by
  induction name generalizing taken with
  | nil => rfl
  | cons c name ih =>
      rw [List.mem_cons, not_or] at hname
      rw [List.cons_append, fill]
      · rw [ih hname.2, List.reverse_cons, List.append_assoc]
        rfl
      · rintro rfl
        exact absurd rfl hname.1

theorem valueOf_reverse (name : String) :
    valueOf value? name.toList.reverse
      = match value? name with
        | some value => .ok value.toList
        | none => .error (.unset name) := by
  cases hvalue : value? name with
  | none => simp [valueOf, hvalue]
  | some value => simp [valueOf, hvalue]

/-- **The value of its variable takes the place of a placeholder.** -/
theorem fill_placeholder {front behind : List Char} {name value : String} (hfront : '$' ∉ front)
    (hbehind : '$' ∉ behind) (hname : '}' ∉ name.toList) (hvalue : value? name = some value) :
    fill value? none (front ++ '$' :: '{' :: (name.toList ++ '}' :: behind))
      = .ok (front ++ (value.toList ++ behind)) := by
  refine fill_append hfront ?_
  rw [fill, fill_name hname, List.append_nil, valueOf_reverse, hvalue,
    fill_of_not_opens (not_opens_of_notMem hbehind)]
  rfl

end Interpolation

theorem interpolate_of_not_opens {value? : String → Option String} {s : String}
    (h : ¬ Interpolation.Opens s.toList) : interpolate value? s = .ok s := by
  rw [interpolate, Interpolation.fill_of_not_opens h]
  exact congrArg Except.ok (String.ofList_toList)

end InvoiceApproval
