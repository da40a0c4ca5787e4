/-
What comes of loading the settings.

`Loads` says it without running anything: which file is used, in which order the things that
can go wrong are found, and which layer decides a setting.  It is put together from three
relations, one for each step of the way.  `UsesFile` is the choice of the file, `FileGives` what
a file at a path gives, and `FromFile` both together, with the file that is missing.

Each relation is shown to hold of exactly what the function gives, from the inside out, and
`load_layers` says it of the loading as a whole.
-/
import InvoiceApproval.Proofs.Settings.Layers
import InvoiceApproval.Proofs.Settings.Reads

namespace InvoiceApproval.Settings

variable {w : World} {named : Option String}

/-! ### The file that is used -/

/-- Which file is used: the one that is named, if there is something at its path, and no
other; or the first of the usual ones at whose path there is something. -/
inductive UsesFile (w : World) : Option String → Option String → Prop
  | named {path : String} : w.hasPath path = true → UsesFile w (some path) (some path)
  | absent {path : String} : w.hasPath path = false → UsesFile w (some path) none
  | usual {front back : List String} {path : String} :
    usualPaths = front ++ path :: back → (∀ other ∈ front, w.hasPath other = false) →
    w.hasPath path = true → UsesFile w none (some path)
  | nowhere : (∀ path ∈ usualPaths, w.hasPath path = false) → UsesFile w none none

theorem usesFile_filePath? (w : World) (named : Option String) :
    UsesFile w named (filePath? w named) := by
  cases named with
  | some path =>
      cases hpath : w.hasPath path with
      | true => simpa [filePath?, hpath] using UsesFile.named hpath
      | false => simpa [filePath?, hpath] using UsesFile.absent hpath
  | none =>
      cases hfound : filePath? w none with
      | some path =>
          obtain ⟨hpath, front, back, hsplit, hfront⟩ := List.find?_eq_some_iff_append.1 hfound
          exact .usual hsplit (fun other h => by simpa using hfront other h) hpath
      | none => exact .nowhere fun path h => by simpa using List.find?_eq_none.1 hfound path h

theorem usesFile_of_filePath? {found : Option String} (h : filePath? w named = found) :
    UsesFile w named found :=
  h ▸ usesFile_filePath? w named

theorem filePath?_eq_of_usesFile {found : Option String} (h : UsesFile w named found) :
    filePath? w named = found := by
  cases h with
  | named hpath => simp [filePath?, hpath]
  | absent hpath => simp [filePath?, hpath]
  | usual hsplit hfront hpath =>
      exact List.find?_eq_some_iff_append.2
        ⟨hpath, _, _, hsplit, fun other h => by simp [hfront other h]⟩
  | nowhere hall => exact List.find?_eq_none.2 fun path h => by simp [hall path h]

/-! ### What a file gives -/

/-- What the file at a path gives: the first of three errors, or the layer that says what the
document in it says. -/
inductive FileGives (w : World) (path : String) : Except SettingsError Layer → Prop
  | unreadable {cause : FileError} :
    w.readText path = .error cause → FileGives w path (.error (.unreadable path cause))
  | unfilled {raw : String} {cause : PlaceholderError} :
    w.readText path = .ok raw → interpolate w.value? raw = .error cause →
    FileGives w path (.error (.placeholder cause))
  | malformed {raw filled : String} :
    w.readText path = .ok raw → interpolate w.value? raw = .ok filled →
    (Toml.read? filled).bind Layer.ofDocument? = none →
    FileGives w path (.error (.malformed path Toml.failureText))
  | layer {raw filled : String} {document : List (String × Data)} {layer : Layer} :
    w.readText path = .ok raw → interpolate w.value? raw = .ok filled →
    Toml.read? filled = some document → Layer.ofDocument? document = some layer →
    (∀ k, FileSays document k (layer.get k)) → FileGives w path (.ok layer)

theorem ofFile_eq_of_fileGives {path : String} {result : Except SettingsError Layer}
    (h : FileGives w path result) : Layer.ofFile w path = result := by
  cases h with
  | unreadable hraw => simp [Layer.ofFile, hraw, Except.mapError, bind, Except.bind]
  | unfilled hraw hfilled => simp [Layer.ofFile, hraw, hfilled, Except.mapError, bind, Except.bind]
  | malformed hraw hfilled hread =>
      simp [Layer.ofFile, hraw, hfilled, hread, Except.mapError, bind, Except.bind, throw,
        throwThe, MonadExceptOf.throw]
  | layer hraw hfilled hdocument hlayer _ =>
      simp [Layer.ofFile, hraw, hfilled, hdocument, hlayer, Except.mapError, bind, Except.bind,
        pure, Except.pure]

/-- Every file gives something. -/
theorem exists_fileGives (w : World) (path : String) : ∃ result, FileGives w path result := by
  cases hraw : w.readText path with
  | error cause => exact ⟨_, .unreadable hraw⟩
  | ok raw =>
  cases hfilled : interpolate w.value? raw with
  | error cause => exact ⟨_, .unfilled hraw hfilled⟩
  | ok filled =>
  cases hread : (Toml.read? filled).bind Layer.ofDocument? with
  | none => exact ⟨_, .malformed hraw hfilled hread⟩
  | some layer =>
      obtain ⟨document, hdocument, hlayer⟩ := Option.bind_eq_some_iff.1 hread
      exact ⟨_, .layer hraw hfilled hdocument hlayer (fileSays_of_ofDocument? hlayer)⟩

theorem fileGives_ofFile (w : World) (path : String) : FileGives w path (Layer.ofFile w path) := by
  obtain ⟨result, h⟩ := exists_fileGives w path
  rwa [ofFile_eq_of_fileGives h]

/-- What the settings file gives to whoever names it or not, and requires it or not. -/
inductive FromFile (w : World) (named : Option String) (required : Bool) :
    Except SettingsError Layer → Prop
  | found {path : String} {result : Except SettingsError Layer} :
    UsesFile w named (some path) → FileGives w path result → FromFile w named required result
  | missing : UsesFile w named none → required = true →
    FromFile w named required (.error (.missing (named.getD "invoiceflow.toml")))
  | nothing : UsesFile w named none → required = false → FromFile w named required (.ok .silent)

theorem ofFiles_eq_iff {required : Bool} {result : Except SettingsError Layer} :
    Layer.ofFiles w named required = result ↔ FromFile w named required result := by
  constructor
  · rintro rfl
    unfold Layer.ofFiles
    cases hfound : filePath? w named with
    | some path => exact .found (usesFile_of_filePath? hfound) (fileGives_ofFile w path)
    | none =>
        cases required with
        | true => exact .missing (usesFile_of_filePath? hfound) rfl
        | false => exact .nothing (usesFile_of_filePath? hfound) rfl
  · intro h
    unfold Layer.ofFiles
    cases h with
    | found huses hgives =>
        rw [filePath?_eq_of_usesFile huses]
        exact ofFile_eq_of_fileGives hgives
    | missing huses hrequired => rw [filePath?_eq_of_usesFile huses, hrequired]; rfl
    | nothing huses hrequired => rw [filePath?_eq_of_usesFile huses, hrequired]; rfl

/-! ### All layers -/

/-- Settings in which the topmost layer that speaks of a setting decides it: what the caller
fixes, then the variables, then the file, and else the default. -/
def Layered (w : World) (overrides file : Layer) (s : Settings) : Prop :=
  ∀ k, s.get k = (overrides.get k).or ((variableSays w k).or ((file.get k).or (default.get k)))

/-- The settings with all layers on top of one another. -/
def merged (w : World) (overrides file : Layer) : Settings :=
  ((default.under file).under (.saying (variableSays w))).under overrides

theorem layered_iff_eq_merged {overrides file : Layer} {s : Settings} :
    Layered w overrides file s ↔ s = merged w overrides file := by
  have hget : ∀ k, (merged w overrides file).get k
      = (overrides.get k).or ((variableSays w k).or ((file.get k).or (default.get k))) := by
    intro k
    rw [merged, get_under, get_under, get_under, Layer.get_saying]
  constructor
  · intro h
    exact ext_get fun k => (h k).trans (hget k).symm
  · rintro rfl
    exact hget

/-- What comes of loading the settings.  The variables are heard before the caller's wishes
count, so a variable that cannot be read is an error also where its setting is overridden. -/
inductive Loads (w : World) (wishes : Wishes) : Except SettingsError Settings → Prop
  | fileError {e : SettingsError} :
    FromFile w wishes.filePath wishes.requireFile (.error e) → Loads w wishes (.error e)
  | variableError {file : Layer} {e : SettingsError} :
    FromFile w wishes.filePath wishes.requireFile (.ok file) →
    (variableFaults w).head? = some e → Loads w wishes (.error e)
  | invalid {file : Layer} {s : Settings} {violation : SettingsViolation} :
    FromFile w wishes.filePath wishes.requireFile (.ok file) → variableFaults w = [] →
    Layered w wishes.overrides file s → s.violations.head? = some violation →
    Loads w wishes (.error (.invalid violation))
  | loaded {file : Layer} {s : Settings} :
    FromFile w wishes.filePath wishes.requireFile (.ok file) → variableFaults w = [] →
    Layered w wishes.overrides file s → s.violations = [] → Loads w wishes (.ok s)

theorem load_eq (w : World) (wishes : Wishes) :
    load w wishes = (Layer.ofFiles w wishes.filePath wishes.requireFile).bind fun file =>
      match (variableFaults w).head? with
      | some e => .error e
      | none => check (merged w wishes.overrides file) := by
  unfold load
  rw [ofVariables_eq]
  cases Layer.ofFiles w wishes.filePath wishes.requireFile with
  | error e => rfl
  | ok file => cases (variableFaults w).head? <;> rfl

theorem loads_load (w : World) (wishes : Wishes) : Loads w wishes (load w wishes) := by
  rw [load_eq]
  cases hfile : Layer.ofFiles w wishes.filePath wishes.requireFile with
  | error e => exact .fileError (ofFiles_eq_iff.1 hfile)
  | ok file =>
  have hfrom := ofFiles_eq_iff.1 hfile
  simp only [Except.bind]
  cases hfault : (variableFaults w).head? with
  | some e => exact .variableError hfrom hfault
  | none =>
  have hheard := List.head?_eq_none_iff.1 hfault
  simp only [check_eq]
  cases hviolation : (merged w wishes.overrides file).violations.head? with
  | some violation => exact .invalid hfrom hheard (layered_iff_eq_merged.2 rfl) hviolation
  | none =>
      exact .loaded hfrom hheard (layered_iff_eq_merged.2 rfl) (List.head?_eq_none_iff.1 hviolation)

theorem load_eq_of_loads {wishes : Wishes} {result : Except SettingsError Settings}
    (h : Loads w wishes result) : load w wishes = result := by
  rw [load_eq]
  cases h with
  | fileError hfile => rw [ofFiles_eq_iff.2 hfile]; rfl
  | variableError hfile hfault => rw [ofFiles_eq_iff.2 hfile, hfault]; rfl
  | invalid hfile hheard hlayered hviolation =>
      rw [ofFiles_eq_iff.2 hfile, hheard]
      rw [layered_iff_eq_merged.1 hlayered] at hviolation
      simp [Except.bind, check_eq, hviolation]
  | loaded hfile hheard hlayered hvalid =>
      rw [ofFiles_eq_iff.2 hfile, hheard]
      rw [layered_iff_eq_merged.1 hlayered] at hvalid ⊢
      simp [Except.bind, check_eq, hvalid]

/-- **The layers of the settings.**  Loading does what `Loads` says and nothing else, for any
files, variables and wishes.  It looks at nothing but the paths on the way to the file and the
variables of the settings and of the placeholders in the file: in a world that looks alike it
does the same, and so it does without all other variables. -/
theorem load_layers (w : World) (wishes : Wishes) :
    (∀ result, load w wishes = result ↔ Loads w wishes result)
      ∧ (∀ w', Alike w w' wishes.filePath → load w' wishes = load w wishes)
      ∧ load (w.knownBy (namesSeen w wishes.filePath)) wishes = load w wishes := by
  refine ⟨fun result => ⟨?_, load_eq_of_loads⟩, fun w' => load_congr, load_knownBy w wishes⟩
  rintro rfl
  exact loads_load w wishes

/-- A port that the caller fixes does not help against a variable that is not one. -/
example : load ⟨[], [("INVOICEFLOW_SERVER_PORT", "x")]⟩
      ⟨none, false, { Layer.silent with port := some 80 }⟩
    = .error (.badVariable "INVOICEFLOW_SERVER_PORT" "x") := by
  decide +kernel

end InvoiceApproval.Settings
