/-
Settings that pass the check, and who uses them.

What the check asks of a setting it asks of the setting as it is stored, but for one: the name of
the log level is looked at without the blanks around it, and stored with them (`Usable`).  The
name is taken as it stands when the log is set up, where a name that is none stands for `info`
and nobody is told.  So the level that was asked for is the one that is used exactly if no blank
stands before or behind its name: `load_usable`.
-/
import InvoiceApproval.Proofs.Settings.Loading
import Mathlib

namespace InvoiceApproval

namespace Text

theorem isBlankText_eq_false_iff {s : String} :
    isBlankText s = false ↔ ∃ c ∈ s.toList, isBlank c = false := by
  unfold isBlankText
  rw [List.all_eq_false]
  simp only [Bool.not_eq_true]

/-- A blank has no case. -/
theorem toLower_of_isBlank {c : Char} (h : isBlank c = true) : c.toLower = c := by
  refine Char.toLower_eq_of_not_isUpper ?_
  intro hupper
  have hrange : 65 ≤ c.toNat ∧ c.toNat ≤ 90 := by
    simpa [Char.isUpper, UInt32.le_iff_toNat_le] using hupper
  simp only [isBlank, Bool.or_eq_true, Bool.and_eq_true, decide_eq_true_eq, beq_iff_eq] at h
  omega

/-- A text that is lower-cased to one without blanks has none around it. -/
theorem trim_of_asciiLower {s small : String} (hsmall : ∀ c ∈ small.toList, isBlank c = false)
    (h : asciiLower s = small) : trim s = s := by
  have hplain : ∀ c ∈ s.toList, isBlank c = false := by
    intro c hc
    rw [← Bool.not_eq_true]
    intro hblank
    have hmem : c ∈ small.toList := by
      rw [← h, asciiLower, String.toList_ofList, ← toLower_of_isBlank hblank]
      exact List.mem_map_of_mem hc
    rw [hsmall c hmem] at hblank
    exact Bool.false_ne_true hblank
  rw [trim, trimmed_of_not_blank hplain, String.ofList_toList]

end Text

namespace Settings

/-! ### The check -/

/-- What the check makes sure of. -/
structure Usable (s : Settings) : Prop where
  bindAddress : ∃ c ∈ s.bindAddress.toList, Text.isBlank c = false
  port : 1 ≤ s.port
  requestTimeoutSecs : 1 ≤ s.requestTimeoutSecs ∧ s.requestTimeoutSecs ≤ 300
  catalogPath : ∀ path, s.catalogPath = some path → path ≠ ""
  channel : ∃ c ∈ s.channel.toList, Text.isBlank c = false
  /-- Blanks around the name do not count here. -/
  logLevel : Text.asciiLower (Text.trim s.logLevel) ∈ logLevels

/-- **The check passes what is usable and nothing else.** -/
theorem violation?_eq_none_iff {s : Settings} : s.violation? = none ↔ s.Usable := by
  have hkeys : s.violation? = none ↔ ∀ k ∈ Key.all, s.violationOf? k = none := by
    rw [violation?_eq_head?, violations, List.head?_eq_none_iff, List.filterMap_eq_nil_iff]
  rw [hkeys]
  constructor
  · intro h
    have hall (k : Key) : s.violationOf? k = none := h k k.mem_all
    refine ⟨?_, ?_, ?_, ?_, ?_, ?_⟩
    · have := hall .bindAddress
      simp only [violationOf?, ite_eq_right_iff, reduceCtorEq, imp_false, Bool.not_eq_true] at this
      exact Text.isBlankText_eq_false_iff.1 this
    · have := hall .port
      simp only [violationOf?, ite_eq_right_iff, reduceCtorEq, imp_false] at this
      omega
    · have := hall .requestTimeoutSecs
      simp only [violationOf?, ite_eq_right_iff, reduceCtorEq, imp_false] at this
      omega
    · rintro path hpath rfl
      have := hall .catalogPath
      simp [violationOf?, hpath] at this
    · have := hall .channel
      simp only [violationOf?, ite_eq_right_iff, reduceCtorEq, imp_false, Bool.not_eq_true] at this
      exact Text.isBlankText_eq_false_iff.1 this
    · have := hall .logLevel
      simp only [violationOf?, ite_eq_left_iff, reduceCtorEq, imp_false, not_not] at this
      exact this
  · intro h k _
    cases k with
    | bindAddress => simp [violationOf?, Text.isBlankText_eq_false_iff.2 h.bindAddress]
    | port =>
        have := h.port
        simp only [violationOf?, ite_eq_right_iff, reduceCtorEq, imp_false]
        omega
    | requestTimeoutSecs =>
        have := h.requestTimeoutSecs
        simp only [violationOf?, ite_eq_right_iff, reduceCtorEq, imp_false]
        omega
    | catalogPath => exact if_neg fun hempty => h.catalogPath "" hempty rfl
    | catalogStrict => rfl
    | channel => simp [violationOf?, Text.isBlankText_eq_false_iff.2 h.channel]
    | logLevel => rw [violationOf?, if_pos h.logLevel]
    | logFormat => rfl

theorem usable_of_load {w : World} {wishes : Wishes} {s : Settings} (h : load w wishes = .ok s) :
    s.Usable := by
  have hloads := loads_load w wishes
  rw [h] at hloads
  cases hloads with
  | loaded _ _ _ hvalid =>
      rw [← violation?_eq_none_iff, violation?_eq_head?, hvalid]
      rfl

/-! ### The level of the log -/

theorem isBlank_of_mem_logLevels {level : String} (h : level ∈ logLevels) :
    ∀ c ∈ level.toList, Text.isBlank c = false := by
  have hall : logLevels.all (fun level => level.toList.all fun c => !Text.isBlank c) = true := by
    decide
  intro c hc
  simpa using List.all_eq_true.1 (List.all_eq_true.1 hall level h) c hc

/-- The name of a level has no blanks around it, and no name with blanks around it is lower-cased
to one. -/
theorem asciiLower_mem_logLevels_iff {name : String}
    (h : Text.asciiLower (Text.trim name) ∈ logLevels) :
    Text.asciiLower name ∈ logLevels ↔ Text.trim name = name := by
  constructor
  · intro hmem
    exact Text.trim_of_asciiLower (isBlank_of_mem_logLevels hmem) rfl
  · intro htrim
    rwa [htrim] at h

/-- What a reader of level names does: it takes the five names in any case, and no text with a
blank at either end. -/
structure ReadsLevels {α : Type} (read : String → Option α) : Prop where
  accepts : ∀ name, Text.asciiLower name ∈ logLevels → (read name).isSome
  refuses : ∀ name, Text.trim name ≠ name → read name = none

/--
**Settings that are loaded can be used as they are stored, but for blanks around the name of the
log level.**

Without blanks around it the name is one of the five, up to case, and whoever reads it finds a
level.  With blanks around it the name is none of them, and is not read.
-/
theorem load_usable {w : World} {wishes : Wishes} {s : Settings} (h : load w wishes = .ok s) :
    s.Usable ∧
    (Text.asciiLower s.logLevel ∈ logLevels ↔ Text.trim s.logLevel = s.logLevel) ∧
    ∀ {α : Type} (read : String → Option α), ReadsLevels read →
      ((read s.logLevel).isSome ↔ Text.trim s.logLevel = s.logLevel) := by
  have husable := usable_of_load h
  have hlevel := asciiLower_mem_logLevels_iff husable.logLevel
  refine ⟨husable, hlevel, ?_⟩
  intro α read hread
  constructor
  · intro hsome
    by_contra hblanks
    rw [hread.refuses _ hblanks] at hsome
    exact Bool.false_ne_true hsome
  · intro htrim
    exact hread.accepts _ (hlevel.2 htrim)

/-- A level by its name, in any case. -/
def levelNamed? (name : String) : Option String :=
  logLevels.find? (· == Text.asciiLower name)

theorem readsLevels_levelNamed? : ReadsLevels levelNamed? where
  accepts name h := by
    rw [levelNamed?, List.find?_isSome]
    exact ⟨_, h, beq_self_eq_true _⟩
  refuses name h := by
    rw [levelNamed?, List.find?_eq_none]
    intro level hlevel hsame
    exact h (Text.trim_of_asciiLower (isBlank_of_mem_logLevels hlevel) (eq_of_beq hsame).symm)

/-- A world in which a file and a variable speak of the log, in large letters. -/
def shoutedWorld : World :=
  ⟨[("invoiceflow.toml", .text "[logging]\nlevel = \"WARN\"\n")],
    [("INVOICEFLOW_LOG_FORMAT", " JSON ")]⟩

theorem load_usable_shouted :
    load shoutedWorld .none = .ok { default with logLevel := "WARN", logFormat := .json } ∧
      Usable { default with logLevel := "WARN", logFormat := .json } ∧
      Text.asciiLower "WARN" ∈ logLevels ∧ ReadsLevels levelNamed? ∧
      (levelNamed? "WARN").isSome := by
  have hload : load shoutedWorld .none
      = .ok { default with logLevel := "WARN", logFormat := .json } := by decide +kernel
  obtain ⟨husable, hlevel, hread⟩ := load_usable hload
  have htrim : Text.trim "WARN" = "WARN" := by decide +kernel
  exact ⟨hload, husable, hlevel.2 htrim, readsLevels_levelNamed?,
    (hread levelNamed? readsLevels_levelNamed?).2 htrim⟩

/-- A world in which a variable gives the level with blanks around it. -/
def spacedWorld : World := ⟨[], [("INVOICEFLOW_LOGGING_LEVEL", " debug ")]⟩

/-- A level with blanks around its name passes the check and is stored as it is. -/
theorem spaced_level_stored :
    load spacedWorld .none = .ok { default with logLevel := " debug " } ∧
      Text.asciiLower " debug " ∉ logLevels ∧ levelNamed? " debug " = none :=
  ⟨by decide +kernel, by decide +kernel, by decide +kernel⟩

end Settings

end InvoiceApproval
