/-
Where settings are said to come from.

The command that shows the settings names a source for each of them.  `Supplies` is the source
that a value has: the variable that speaks of the setting, else the settings file if it gives a
value, else the defaults.  Once the settings are loaded every setting has one source.

The command does not ask for it.  It looks for the variable and the file by itself, and it looks
for a field in the file as it is written, with the placeholders still in it.  So a variable is
always named rightly, and a file that is named is always the file that was read; but whether the
file is named is another question (`of_eq_iff`).  The answer is right for a file without
placeholders whose sections are written as tables (`PlainlyWritten`).  A file that is TOML only
once its placeholders are filled supplies settings and is not named.
-/
import InvoiceApproval.Command.Config
import InvoiceApproval.Proofs.Settings.Interpolation
import InvoiceApproval.Proofs.Settings.Loading
import InvoiceApproval.Proofs.Toml.NullFree

namespace InvoiceApproval

/-! ### A document with its moments read -/

namespace Toml

theorem fields_of_readMoments? {d : Data} {read : List (String × Data)}
    (h : readMoments? d = some (.record read)) :
    ∃ fields, d = .record fields ∧ fieldMoments? fields = some read := by
  cases d with
  | record fields =>
      rw [readMoments?] at h
      split at h
      · unfold momentOf? at h
        split at h
        · split at h <;> cases h
        · exact nomatch h
      · obtain ⟨read', hread, h⟩ := Option.map_eq_some_iff.1 h
        cases h
        exact ⟨fields, rfl, hread⟩
  | list items =>
      rw [readMoments?] at h
      obtain ⟨ds, -, h⟩ := Option.map_eq_some_iff.1 h
      exact nomatch h
  | null | bool | number | text => exact nomatch h

/-- Reading the moments of the fields of a record leaves their names. -/
theorem lookup_fieldMoments? {fields read : List (String × Data)}
    (h : fieldMoments? fields = some read) (name : String) :
    (fields.lookup name).bind readMoments? = read.lookup name ∧
      ((fields.lookup name).isSome ↔ (read.lookup name).isSome) := by
  induction fields generalizing read with
  | nil =>
      cases h
      exact ⟨rfl, Iff.rfl⟩
  | cons f fields ih =>
      obtain ⟨k, d⟩ := f
      obtain ⟨d', hd, h⟩ := Option.bind_eq_some_iff.1 h
      obtain ⟨read', hread, h⟩ := Option.bind_eq_some_iff.1 h
      cases h
      rw [List.lookup_cons, List.lookup_cons]
      cases name == k with
      | true => exact ⟨hd, Iff.rfl⟩
      | false => exact ih hread

end Toml

namespace Settings

open SettingSource (rawFile? speaksOf)

variable {w : World} {s : Settings} {k : Key} {source : SettingSource}

/-! ### The source that a setting has -/

/-- The value of a setting comes from this source: from the variable that speaks of it, else from
the settings file, else from the defaults. -/
inductive Supplies (w : World) (s : Settings) (k : Key) : SettingSource → Prop
  | environment {name text : String} {value : k.Value} :
    variableFor? w k = some (name, text) → k.read text = some value → s.get k = some value →
      Supplies w s k (.environment name)
  | file {path : String} {layer : Layer} {value : k.Value} :
    variableFor? w k = none → UsesFile w none (some path) → FileGives w path (.ok layer) →
      layer.get k = some value → s.get k = some value → Supplies w s k (.file path)
  | default {layer : Layer} :
    variableFor? w k = none → FromFile w none false (.ok layer) → layer.get k = none →
      s.get k = default.get k → Supplies w s k .default

theorem isSome_read_of_variableFaults {name text : String} (h : variableFaults w = [])
    (hvariable : variableFor? w k = some (name, text)) : (k.read text).isSome := by
  have hfault : variableFault? w k = none := by
    have hall := List.filterMap_eq_nil_iff.1 h
    exact hall k k.mem_all
  unfold variableFault? at hfault
  rw [hvariable, Option.bind_some] at hfault
  dsimp only at hfault
  by_contra hunread
  rw [if_neg hunread] at hfault
  exact nomatch hfault

/-- **Every setting that is loaded has a source.** -/
theorem exists_supplies (hload : load w .none = .ok s) (k : Key) : ∃ source, Supplies w s k source := by
  have hloads := loads_load w .none
  rw [hload] at hloads
  cases hloads with
  | @loaded file _ hfile hheard hlayered hvalid =>
      have hvalue := hlayered k
      rw [show Wishes.none.overrides.get k = none from Layer.get_silent k, Option.none_or,
        variableSays, textFor?] at hvalue
      cases hvariable : variableFor? w k with
      | some entry =>
          obtain ⟨name, text⟩ := entry
          obtain ⟨value, hread⟩ := Option.isSome_iff_exists.1
            (isSome_read_of_variableFaults hheard hvariable)
          rw [hvariable, Option.map_some, Option.bind_some, hread, Option.some_or] at hvalue
          exact ⟨_, .environment hvariable hread hvalue⟩
      | none =>
          rw [hvariable, Option.map_none, Option.bind_none, Option.none_or] at hvalue
          cases hsaid : file.get k with
          | none =>
              rw [hsaid, Option.none_or] at hvalue
              exact ⟨_, .default hvariable hfile hsaid hvalue⟩
          | some value =>
              rw [hsaid, Option.some_or] at hvalue
              cases hfile with
              | found huses hgives => exact ⟨_, .file hvariable huses hgives hsaid hvalue⟩
              | nothing => exact nomatch (Layer.get_silent k).symm.trans hsaid

theorem FromFile.layer_eq {layer layer' : Layer} (h : FromFile w none false (.ok layer))
    (h' : FromFile w none false (.ok layer')) : layer = layer' :=
  Except.ok.inj ((ofFiles_eq_iff.2 h).symm.trans (ofFiles_eq_iff.2 h'))

/-- A setting has one source. -/
theorem Supplies.unique {other : SettingSource} (h : Supplies w s k source)
    (h' : Supplies w s k other) : other = source := by
  cases h with
  | environment hvariable _ _ =>
      cases h' with
      | environment hvariable' _ _ =>
          cases hvariable.symm.trans hvariable'
          rfl
      | file hnone _ _ _ _ => exact nomatch hvariable.symm.trans hnone
      | default hnone _ _ _ => exact nomatch hvariable.symm.trans hnone
  | file hnone huses hgives hsaid _ =>
      cases h' with
      | environment hvariable _ _ => exact nomatch hvariable.symm.trans hnone
      | file _ huses' _ _ _ =>
          cases (filePath?_eq_of_usesFile huses).symm.trans (filePath?_eq_of_usesFile huses')
          rfl
      | default _ hfile hsilent _ =>
          cases hfile.layer_eq (.found huses hgives)
          exact nomatch hsaid.symm.trans hsilent
  | default hnone hfile hsilent _ =>
      cases h' with
      | environment hvariable _ _ => exact nomatch hvariable.symm.trans hnone
      | file _ huses hgives hsaid _ =>
          cases hfile.layer_eq (.found huses hgives)
          exact nomatch hsaid.symm.trans hsilent
      | default _ _ _ _ => rfl

/-! ### The source that is named -/

/-- The settings file has a field for a setting as it is written, with its placeholders still in
it. -/
def Written (w : World) (k : Key) : Prop :=
  ∃ raw, rawFile? w = some raw ∧ speaksOf raw.document k = true

theorem usesFile_of_rawFile? {raw : SettingSource.RawFile} (h : rawFile? w = some raw) :
    UsesFile w none (some raw.path) := by
  obtain ⟨path, hpath, h⟩ := Option.bind_eq_some_iff.1 h
  split at h
  · exact nomatch h
  · obtain ⟨document, -, h⟩ := Option.bind_eq_some_iff.1 h
    obtain ⟨moments, -, h⟩ := Option.bind_eq_some_iff.1 h
    cases h
    exact usesFile_of_filePath? hpath

/-- A variable that speaks of a setting is named, a file only if none does, and it is the file
that is read. -/
theorem of_cases (w : World) (k : Key) :
    (∃ name text, variableFor? w k = some (name, text) ∧ SettingSource.of w k = .environment name) ∨
      variableFor? w k = none ∧
        ((Written w k ∧ ∃ path, UsesFile w none (some path) ∧ SettingSource.of w k = .file path) ∨
          ¬ Written w k ∧ SettingSource.of w k = .default) := by
  unfold SettingSource.of
  cases hvariable : variableFor? w k with
  | some entry => exact .inl ⟨entry.1, entry.2, rfl, rfl⟩
  | none =>
      refine .inr ⟨rfl, ?_⟩
      cases hraw : rawFile? w with
      | none => exact .inr ⟨fun ⟨raw, h, _⟩ => (nomatch hraw.symm.trans h), rfl⟩
      | some raw =>
          cases hspeaks : speaksOf raw.document k with
          | true =>
              have hfound : (some raw).filter (fun file => speaksOf file.document k) = some raw := by
                simp [Option.filter, hspeaks]
              rw [hfound]
              exact .inl ⟨⟨raw, hraw, hspeaks⟩, raw.path, usesFile_of_rawFile? hraw, rfl⟩
          | false =>
              have hnone : (some raw).filter (fun file => speaksOf file.document k) = none := by
                simp [Option.filter, hspeaks]
              rw [hnone]
              refine .inr ⟨fun ⟨raw', h, hspeaks'⟩ => ?_, rfl⟩
              cases hraw.symm.trans h
              exact nomatch hspeaks.symm.trans hspeaks'

/-- **When the source that is named is the source that a setting has.** -/
theorem of_eq_iff (h : Supplies w s k source) :
    SettingSource.of w k = source ↔
      (variableFor? w k).isSome ∨ (Written w k ↔ ∃ path, source = .file path) := by
  rcases of_cases w k with ⟨name, text, hvariable, hof⟩ | ⟨hnone, ⟨hwritten, path, huses, hof⟩ |
    ⟨hwritten, hof⟩⟩
  · rw [hof, hvariable]
    cases h with
    | environment hvariable' _ _ =>
        cases hvariable.symm.trans hvariable'
        simp
    | file hnone _ _ _ _ => exact nomatch hvariable.symm.trans hnone
    | default hnone _ _ _ => exact nomatch hvariable.symm.trans hnone
  · rw [hof, hnone]
    cases h with
    | environment hvariable _ _ => exact nomatch hvariable.symm.trans hnone
    | file _ huses' _ _ _ =>
        cases (filePath?_eq_of_usesFile huses).symm.trans (filePath?_eq_of_usesFile huses')
        simp [hwritten]
    | default _ _ _ _ => simp [hwritten]
  · rw [hof, hnone]
    cases h with
    | environment hvariable _ _ => exact nomatch hvariable.symm.trans hnone
    | file _ _ _ _ _ => simp [hwritten]
    | default _ _ _ _ => simp [hwritten]

/-! ### Files that are written plainly -/

/-- Whether a document is a record, and its sections are records. -/
def hasTables : Data → Bool
  | .record fields => Key.all.all fun k =>
    match fields.lookup k.place.1 with
    | none | some (.record _) => true
    | some _ => false
  | _ => false

theorem exists_fields_of_hasTables {document : Data} (h : hasTables document = true) :
    ∃ fields, document = .record fields ∧
      ∀ (k : Key) (d : Data), fields.lookup k.place.1 = some d → ∃ inner, d = .record inner := by
  unfold hasTables at h
  split at h
  · rename_i fields
    refine ⟨fields, rfl, fun k d hd => ?_⟩
    have hk := List.all_eq_true.1 h k k.mem_all
    rw [hd] at hk
    split at hk
    · exact nomatch ‹some d = none›
    · exact ⟨_, Option.some.inj ‹some d = some (.record _)›⟩
    · exact nomatch hk
  · exact nomatch h

/-- A text that holds no placeholder, and that is TOML whose sections are tables. -/
structure PlainText (text : String) : Prop where
  unopened : ¬ Interpolation.Opens text.toList
  tables : ((Toml.read? text).bind fun document => Toml.readMoments? (.record document)).any
    hasTables = true

theorem PlainText.exists_fields {text : String} (h : PlainText text) :
    ∃ document fields, Toml.read? text = some document ∧
      Toml.readMoments? (.record document) = some (.record fields) ∧
      ∀ (k : Key) (d : Data), fields.lookup k.place.1 = some d → ∃ inner, d = .record inner := by
  have htables := h.tables
  cases hread : Toml.read? text with
  | none =>
      rw [hread] at htables
      exact nomatch htables
  | some document =>
      rw [hread, Option.bind_some] at htables
      cases hmoments : Toml.readMoments? (.record document) with
      | none =>
          rw [hmoments] at htables
          exact nomatch htables
      | some moments =>
          rw [hmoments] at htables
          obtain ⟨fields, rfl, hfields⟩ := exists_fields_of_hasTables htables
          exact ⟨document, fields, rfl, hmoments, hfields⟩

/-- The settings file, if there is one, is written plainly. -/
def PlainlyWritten (w : World) : Prop :=
  ∀ path text, UsesFile w none (some path) → w.readText path = .ok text → PlainText text

/-- What a document says of a setting whose section is a table: something exactly if the table
has its field. -/
theorem isSome_said_iff {document : List (String × Data)} {said : Option k.Value}
    (hfree : Data.FieldsNullFree document)
    (htable : ∀ d, document.lookup k.place.1 = some d → ∃ fields, d = .record fields)
    (h : FileSays document k said) :
    said.isSome ↔ ∃ fields, document.lookup k.place.1 = some (.record fields) ∧
      (fields.lookup k.place.2).isSome := by
  cases h with
  | unsaid hnone => simp [hnone]
  | @said d row _ hsection hrow hsays =>
      obtain ⟨fields, rfl⟩ := htable d hsection
      cases hrow
      rw [hsection]
      cases hsays with
      | silent hnull =>
          have hnone : fields.lookup k.place.2 = none := by
            cases hfield : fields.lookup k.place.2 with
            | none => rfl
            | some d =>
                have hd := Data.nullFree_of_lookup (Data.nullFree_of_lookup hfree hsection) hfield
                cases hnull d hfield
                exact hd.elim
          refine iff_of_false (fun h => nomatch h) ?_
          rintro ⟨fields', hfields', hsome⟩
          cases hfields'
          rw [hnone] at hsome
          exact nomatch hsome
      | written hfield _ _ =>
          have hlookup : fields.lookup k.place.2 = some _ := hfield
          exact iff_of_true rfl ⟨fields, rfl, by rw [hlookup]; rfl⟩

/-- Reading the moments of a document leaves the fields of its tables. -/
theorem speaksOf_iff_of_readMoments? {document fields : List (String × Data)}
    (hread : Toml.fieldMoments? document = some fields)
    (htable : ∀ d, fields.lookup k.place.1 = some d → ∃ inner, d = .record inner) :
    speaksOf (.record fields) k = true ↔
      ∃ inner, document.lookup k.place.1 = some (.record inner) ∧
        (inner.lookup k.place.2).isSome := by
  obtain ⟨hsection, hsame⟩ := Toml.lookup_fieldMoments? hread k.place.1
  have hspeaks : speaksOf (.record fields) k
      = ((fields.lookup k.place.1).bind (·.field? k.place.2)).isSome := rfl
  rw [hspeaks]
  cases hlookup : document.lookup k.place.1 with
  | none =>
      rw [hlookup, Option.bind_none] at hsection
      rw [← hsection]
      exact iff_of_false (fun h => nomatch h) fun ⟨_, h, _⟩ => nomatch h
  | some d =>
      rw [hlookup, Option.bind_some] at hsection
      rw [hlookup] at hsame
      obtain ⟨d', hd'⟩ := Option.isSome_iff_exists.1 (hsame.1 rfl)
      obtain ⟨inner', rfl⟩ := htable d' hd'
      obtain ⟨inner, rfl, hinner⟩ := Toml.fields_of_readMoments? (hsection.trans hd')
      have hfield := (Toml.lookup_fieldMoments? hinner k.place.2).2
      rw [hd']
      constructor
      · exact fun h => ⟨inner, rfl, hfield.2 h⟩
      · rintro ⟨_, h, hsome⟩
        cases h
        exact hfield.1 hsome

/-- A file that is written plainly has a field for a setting exactly if it gives it a value. -/
theorem written_iff_of_plainText {path text : String} {layer : Layer} (hplain : PlainText text)
    (huses : UsesFile w none (some path)) (htext : w.readText path = .ok text)
    (hgives : FileGives w path (.ok layer)) : Written w k ↔ (layer.get k).isSome := by
  obtain ⟨document, fields, hdocument, hmoments, htables⟩ := hplain.exists_fields
  obtain ⟨_, hrecord, hfields⟩ := Toml.fields_of_readMoments? hmoments
  cases hrecord
  -- the file as it is written
  have hraw : rawFile? w = some ⟨path, .record fields⟩ := by
    unfold rawFile?
    rw [filePath?_eq_of_usesFile huses]
    simp [htext, hdocument, hmoments]
  have hwritten : Written w k ↔ speaksOf (.record fields) k = true := by
    unfold Written
    rw [hraw]
    constructor
    · rintro ⟨_, h, hspeaks⟩
      cases h
      exact hspeaks
    · exact fun h => ⟨_, rfl, h⟩
  -- the file as it is read
  have hsays : FileSays document k (layer.get k) := by
    cases hgives with
    | layer hraw' hfilled hdocument' _ hsays =>
        cases htext.symm.trans hraw'
        rw [interpolate_of_not_opens hplain.unopened] at hfilled
        cases hfilled
        cases hdocument.symm.trans hdocument'
        exact hsays k
  have htable : ∀ d, document.lookup k.place.1 = some d → ∃ inner, d = .record inner := by
    intro d hd
    obtain ⟨hsection, hsame⟩ := Toml.lookup_fieldMoments? hfields k.place.1
    rw [hd] at hsection hsame
    obtain ⟨read, hread⟩ := Option.isSome_iff_exists.1 (hsame.1 rfl)
    obtain ⟨inner, rfl⟩ := htables k read hread
    obtain ⟨fields', rfl, -⟩ := Toml.fields_of_readMoments? (hsection.trans hread)
    exact ⟨fields', rfl⟩
  rw [hwritten, speaksOf_iff_of_readMoments? hfields (htables k),
    isSome_said_iff (Toml.nullFree_of_read? hdocument) htable hsays]

/-- **A file that is written plainly is named exactly where it supplies a value.** -/
theorem of_eq_of_plainlyWritten (hplain : PlainlyWritten w) (h : Supplies w s k source) :
    SettingSource.of w k = source := by
  rw [of_eq_iff h]
  cases h with
  | environment hvariable _ _ => exact .inl (by rw [hvariable]; rfl)
  | @file path layer _ _ huses hgives hsaid _ =>
      refine .inr (iff_of_true ?_ ⟨path, rfl⟩)
      cases hgives with
      | layer htext hfilled hdocument hlayer hsays =>
          refine (written_iff_of_plainText (hplain path _ huses htext) huses htext
            (.layer htext hfilled hdocument hlayer hsays)).2 ?_
          rw [hsaid]
          rfl
  | @default layer _ hfile hsilent _ =>
      refine .inr (iff_of_false ?_ fun ⟨_, h⟩ => nomatch h)
      cases hfile with
      | @found path _ huses hgives =>
          cases hgives with
          | layer htext hfilled hdocument hlayer hsays =>
              rw [written_iff_of_plainText (hplain path _ huses htext) huses htext
                (.layer htext hfilled hdocument hlayer hsays), hsilent]
              exact fun h => nomatch h
      | nothing hnowhere _ =>
          rintro ⟨raw, hraw, -⟩
          exact nomatch (filePath?_eq_of_usesFile hnowhere).symm.trans
            (filePath?_eq_of_usesFile (usesFile_of_rawFile? hraw))

/-! ### What the command shows -/

/-- What is said of the source of a setting that has this one. -/
structure Attributed (w : World) (s : Settings) (k : Key) (source : SettingSource) : Prop where
  supplies : Supplies w s k source
  /-- It is the only one. -/
  only : ∀ other, Supplies w s k other → other = source
  /-- A variable is named exactly if it supplies the value. -/
  environment : ∀ name, SettingSource.of w k = .environment name ↔ source = .environment name
  /-- A file that is named is the one that is read. -/
  file : ∀ path, SettingSource.of w k = .file path → UsesFile w none (some path)
  /-- The right source is named if a variable supplies the value, or else if the file has a field
  for the setting, as it is written, exactly if it supplies the value. -/
  right : SettingSource.of w k = source ↔
    (variableFor? w k).isSome ∨ (Written w k ↔ ∃ path, source = .file path)
  /-- The right source is named if the file is written plainly. -/
  plain : PlainlyWritten w → SettingSource.of w k = source

theorem attributed_of_supplies (h : Supplies w s k source) : Attributed w s k source where
  supplies := h
  only _ := h.unique
  right := of_eq_iff h
  plain hplain := of_eq_of_plainlyWritten hplain h
  environment name := by
    rcases of_cases w k with ⟨name', text, hvariable, hof⟩ | ⟨hnone, hother⟩
    · rw [(of_eq_iff h).2 (.inl (by rw [hvariable]; rfl))]
    · refine iff_of_false ?_ ?_
      · rcases hother with ⟨-, path, -, hof⟩ | ⟨-, hof⟩ <;> rw [hof] <;> exact fun h => nomatch h
      · rintro rfl
        cases h with
        | environment hvariable _ _ => exact nomatch hvariable.symm.trans hnone
  file path hpath := by
    rcases of_cases w k with ⟨name', text, hvariable, hof⟩ | ⟨-, ⟨-, path', huses, hof⟩ | ⟨-, hof⟩⟩
    · exact nomatch hof.symm.trans hpath
    · cases hof.symm.trans hpath
      exact huses
    · exact nomatch hof.symm.trans hpath

/-- **Where settings come from.**  Once the settings are loaded, the command shows each of them
with its value and the source that is named for it.  What that source has to do with the one that
the setting has, `Attributed` says. -/
theorem config_sources (hload : load w .none = .ok s) :
    Command.config w = .done (Answer.lines
      ("effective config (source precedence: env > file > default):" :: Key.all.map fun k =>
        s!"- {k.label} = {s.valueText k} (source: {(SettingSource.of w k).label})")) ∧
    ∀ k, ∃ source, Attributed w s k source := by
  constructor
  · unfold Command.config
    rw [hload]
    rfl
  · intro k
    obtain ⟨source, hsource⟩ := exists_supplies hload k
    exact ⟨source, attributed_of_supplies hsource⟩

/-- A text with two sections. -/
def layeredText : String := "[server]\nport = 7000\n\n[logging]\nlevel = \"warn\"\n"

theorem plainText_layeredText : PlainText layeredText where
  unopened := by
    unfold Interpolation.Opens
    decide +kernel
  tables := by decide +kernel

/-- A world with a settings file in the second of the usual places, and a variable for a setting
that the file speaks of, too. -/
def layeredWorld : World :=
  ⟨[("config/invoiceflow.toml", .text layeredText)], [("INVOICEFLOW_LOG_LEVEL", "debug")]⟩

/-- The settings there. -/
def layeredSettings : Settings := { default with port := 7000, logLevel := "debug" }

theorem usesFile_layeredWorld : UsesFile layeredWorld none (some "config/invoiceflow.toml") :=
  usesFile_of_filePath? (by decide +kernel)

theorem config_sources_layered :
    load layeredWorld .none = .ok layeredSettings ∧
      SettingSource.of layeredWorld .port = .file "config/invoiceflow.toml" ∧
      Supplies layeredWorld layeredSettings .port (.file "config/invoiceflow.toml") ∧
      SettingSource.of layeredWorld .logLevel = .environment "INVOICEFLOW_LOG_LEVEL" ∧
      Supplies layeredWorld layeredSettings .logLevel (.environment "INVOICEFLOW_LOG_LEVEL") ∧
      SettingSource.of layeredWorld .channel = .default ∧
      Supplies layeredWorld layeredSettings .channel .default := by
  have hload : load layeredWorld .none = .ok layeredSettings := by decide +kernel
  obtain ⟨-, hall⟩ := config_sources hload
  have hplain : PlainlyWritten layeredWorld := by
    intro path text huses htext
    cases (filePath?_eq_of_usesFile huses).symm.trans (filePath?_eq_of_usesFile usesFile_layeredWorld)
    have hread : layeredWorld.readText "config/invoiceflow.toml" = .ok layeredText := by
      decide +kernel
    cases hread.symm.trans htext
    exact plainText_layeredText
  have hright : ∀ {k source}, SettingSource.of layeredWorld k = source →
      Supplies layeredWorld layeredSettings k source := by
    intro k source hsource
    obtain ⟨source', hattributed⟩ := hall k
    rw [← hsource, hattributed.plain hplain]
    exact hattributed.supplies
  have hport : SettingSource.of layeredWorld .port = .file "config/invoiceflow.toml" := by
    decide +kernel
  have hlevel : SettingSource.of layeredWorld .logLevel = .environment "INVOICEFLOW_LOG_LEVEL" := by
    decide +kernel
  have hchannel : SettingSource.of layeredWorld .channel = .default := by decide +kernel
  exact ⟨hload, hport, hright hport, hlevel, hright hlevel, hchannel, hright hchannel⟩

/-- A world whose settings file is TOML only once its placeholder is filled. -/
def placeholderWorld : World :=
  ⟨[("invoiceflow.toml", .text "[server]\nport = $\x7bPORT\x7d\n")], [("PORT", "9090")]⟩

/-- The settings there. -/
def placeholderSettings : Settings := { default with port := 9090 }

/-- A port that the file supplies is said to be a default. -/
theorem supplied_file_not_named :
    load placeholderWorld .none = .ok placeholderSettings ∧
      Supplies placeholderWorld placeholderSettings .port (.file "invoiceflow.toml") ∧
      SettingSource.of placeholderWorld .port = .default := by
  have huses : UsesFile placeholderWorld none (some "invoiceflow.toml") :=
    usesFile_of_filePath? (by decide +kernel)
  have hlayer : Layer.ofFile placeholderWorld "invoiceflow.toml"
      = .ok { Layer.silent with port := some 9090 } := by decide +kernel
  have hgives := fileGives_ofFile placeholderWorld "invoiceflow.toml"
  rw [hlayer] at hgives
  have hvariable : variableFor? placeholderWorld .port = none := by decide +kernel
  exact ⟨by decide +kernel, .file hvariable huses hgives rfl rfl, by decide +kernel⟩

end Settings

end InvoiceApproval
