/-
What a variable can do to the file that it is put into.

A placeholder is filled before the file is read, so the value of a variable becomes part of the
text and not of a value.  Taken here is the plainest file that uses one: a catalog section with
the path in double quotes (`Layout.file`).  The path is the value of the variable exactly if the
value stands for itself between the quotes (`load_placeholder_iff`).  A quote in it closes the
text, and what stands behind it is read as TOML: it can change other settings, or make the file
unreadable.
-/
import InvoiceApproval.Proofs.Settings.Interpolation
import InvoiceApproval.Proofs.Settings.Loading
import InvoiceApproval.Proofs.Toml.Bare
import InvoiceApproval.Proofs.Toml.Quoted
import InvoiceApproval.Proofs.Toml.Tree

namespace InvoiceApproval

namespace Settings

open Toml (isGap Verbatim)

/-! ### The file -/

/-- How a file with a catalog path is laid out: the blanks around the equals sign, and the blanks
and line breaks behind the path. -/
structure Layout where
  before : List Char
  behind : List Char
  tail : List Char
  before_gap : ∀ c ∈ before, isGap c = true
  behind_gap : ∀ c ∈ behind, isGap c = true
  tail_blank : Toml.Blank tail

namespace Layout

variable (l : Layout)

/-- A catalog section in which the path begins: what follows is put behind the opening quote. -/
def opened (rest : List Char) : List Char :=
  '[' :: ("catalog".toList ++ ']' :: '\n' ::
    ("path".toList ++ (l.before ++ '=' :: (l.behind ++ '"' :: rest))))

/-- A file that holds a catalog section with a path, and nothing else. -/
def file (path : List Char) : List Char := l.opened (path ++ '"' :: l.tail)

/-- The file with a placeholder for a variable in the place of the path. -/
def template (name : String) : List Char :=
  l.file ('$' :: '\x7b' :: (name.toList ++ ['\x7d']))

theorem isBare_catalog : Toml.IsBare "catalog".toList :=
  ⟨by decide, List.all_eq_true.1 (by decide)⟩

theorem isBare_path : Toml.IsBare "path".toList :=
  ⟨by decide, List.all_eq_true.1 (by decide)⟩

/-- The lines of the file are the header and the assignment of the path, up to where the text
ends that begins behind the quote, and then whatever follows. -/
theorem takeLines_opened (steps : Nat) (rest : List Char) :
    Toml.takeLines (steps + 2) (l.opened rest)
      = (Toml.takeText ('"' :: rest)).bind fun taken =>
        (Toml.takeLineEnd taken.2).bind fun rest =>
          (Toml.takeLines steps rest).map fun lines =>
            ([], ⟨[], "catalog", false, ⟨[], "path", .text taken.1⟩ :: lines.1⟩ :: lines.2) := by
  have hvalue : ∀ steps, Toml.takeValue (steps + 1) 0 ('"' :: rest)
      = (Toml.takeText ('"' :: rest)).map fun taken => (.text taken.1, taken.2) := by
    intro steps
    rw [Toml.takeValue]
    · rfl
    · exact fun _ h => absurd (List.cons.inj h).1 (by decide)
    · exact fun _ h => absurd (List.cons.inj h).1 (by decide)
  have hquote : Toml.skipGap ('"' :: rest) = '"' :: rest := Toml.skipGap_cons (by decide)
  unfold opened
  rw [Toml.takeLines_header, Toml.takeHeader_bare isBare_catalog]
  simp only [Option.bind_eq_bind, Option.bind_some]
  rw [Toml.takeLines_bare steps isBare_path,
    Toml.takeAssignment_bare isBare_path l.before_gap l.behind_gap hquote, hvalue]
  cases Toml.takeText ('"' :: rest) with
  | none => rfl
  | some taken =>
      simp only [Option.map_some, Option.bind_eq_bind, Option.bind_some]
      cases Toml.takeLineEnd taken.2 with
      | none => rfl
      | some rest =>
          simp only [Option.bind_some]
          cases Toml.takeLines steps rest <;> rfl

theorem two_le_length_opened (rest : List Char) : 2 ≤ (l.opened rest).length := by
  simp [opened]

theorem skipMark_opened (rest : List Char) : Toml.skipMark (l.opened rest) = l.opened rest := by
  simp [opened, Toml.skipMark]

/-- A path that stands for itself between the quotes is read as it is. -/
theorem read?_file {path : List Char} (hne : path ≠ []) (h : ∀ c ∈ path, Verbatim c) :
    Toml.read? (String.ofList (l.file path))
      = some [("catalog", .record [("path", .text (String.ofList path))])] := by
  obtain ⟨steps, hsteps⟩ : ∃ steps, (l.file path).length + 1 = steps + 1 + 2 :=
    ⟨(l.file path).length - 2, by
      have := l.two_le_length_opened (path ++ '"' :: l.tail)
      unfold file
      omega⟩
  obtain ⟨rest, hend, hblank⟩ := Toml.takeLineEnd_blank l.tail_blank
  have hlines : Toml.takeLines (steps + 1 + 2) (l.file path)
      = some ([], [⟨[], "catalog", false, [⟨[], "path", .text (String.ofList path)⟩]⟩]) := by
    rw [file, takeLines_opened, Toml.takeText_of_verbatim hne h]
    simp only [Option.bind_some, hend, Toml.takeLines_blank _ hblank]
    rfl
  have hmark : Toml.skipMark (l.file path) = l.file path := l.skipMark_opened _
  unfold Toml.read?
  rw [String.toList_ofList]
  simp only [hmark, hsteps, hlines, Option.bind_eq_bind, Option.bind_some]
  rfl

/-- Whatever stands behind the opening quote: if the file is TOML at all, its path is the text that
begins there. -/
theorem path_of_read? {rest : List Char} {document : List (String × Data)}
    (h : Toml.read? (String.ofList (l.opened rest)) = some document) :
    ∃ path left fields, Toml.takeText ('"' :: rest) = some (path, left) ∧
      document.lookup "catalog" = some (.record fields) ∧
      fields.lookup "path" = some (.text path) := by
  obtain ⟨steps, hsteps⟩ : ∃ steps, (l.opened rest).length + 1 = steps + 2 :=
    ⟨(l.opened rest).length - 1, by have := l.two_le_length_opened rest; omega⟩
  unfold Toml.read? at h
  rw [String.toList_ofList] at h
  simp only [l.skipMark_opened, hsteps, takeLines_opened] at h
  obtain ⟨⟨opening, sections⟩, hlines, h⟩ := Option.bind_eq_some_iff.1 h
  obtain ⟨entries, hentries, h⟩ := Option.bind_eq_some_iff.1 h
  obtain ⟨⟨path, left⟩, htext, hlines⟩ := Option.bind_eq_some_iff.1 hlines
  obtain ⟨next, -, hlines⟩ := Option.bind_eq_some_iff.1 hlines
  obtain ⟨⟨assignments, others⟩, -, hlines⟩ := Option.map_eq_some_iff.1 hlines
  cases h
  cases hlines
  -- the catalog section, which stands first, and then the others
  obtain ⟨first, hfirst, hothers⟩ := Option.bind_eq_some_iff.1 hentries
  obtain ⟨inner, hinner, hfirst⟩ := Option.bind_eq_some_iff.1 hfirst
  cases hfirst
  have hpath : Toml.Stands (.text path) "path" [] [("path", .value (.text path))] := rfl
  have hbehind : Toml.assignAll [("path", .value (.text path))] assignments = some inner := hinner
  have hinner' : Toml.Stands (.text path) "path" [] inner :=
    Toml.stable_grows.assignAll (fun _ _ => trivial) hbehind _ _ _ hpath
  have hcatalog : Toml.Stands (.text path) "path" ["catalog"]
      [("catalog", .table .header inner)] := ⟨.header, inner, rfl, hinner'⟩
  have hstands := Toml.stable_grows.addSections (fun _ _ _ _ => trivial) hothers _ _ _ hcatalog
  obtain ⟨fields, hsection, hfield⟩ := hstands.lookup_toData
  exact ⟨path, left, fields, htext, hsection, hfield⟩

/-- Of two quotes the one with no other behind it is the last. -/
theorem length_le_of_quote {front front' behind behind' : List Char} (hlast : '"' ∉ behind)
    (h : front ++ '"' :: behind = front' ++ '"' :: behind') : front'.length ≤ front.length := by
  rcases List.append_eq_append_iff.1 h with ⟨between, rfl, hbetween⟩ | ⟨between, rfl, -⟩
  · cases between with
    | nil => simp
    | cons c between =>
        rw [(List.cons.inj hbetween).2] at hlast
        exact absurd (List.mem_append_right between List.mem_cons_self) hlast
  · simp

/-- **If the path of the file is what has been put there, it stands for itself between the
quotes.** -/
theorem verbatim_of_takeText {path left : List Char}
    (h : Toml.takeText ('"' :: (path ++ '"' :: l.tail)) = some (String.ofList path, left)) :
    ∀ c ∈ path, Verbatim c := by
  obtain ⟨used, hused, hread⟩ := Toml.takeText_quoted h
  rw [String.toList_ofList] at hread
  have hquote : '"' ∉ l.tail := l.tail_blank.notMem (by decide) (by decide)
  have hle := length_le_of_quote hquote hused
  have hge := hread.length_le
  rw [List.length_nil, Nat.zero_add] at hge
  have hverbatim := hread.verbatim (by rw [List.length_nil, Nat.zero_add]; omega)
  rw [hverbatim.1]
  exact hverbatim.2

/-! ### Filling it -/

theorem opened_eq (rest : List Char) : l.opened rest = l.opened [] ++ rest := by
  simp [opened]

theorem dollar_notMem_opened : '$' ∉ l.opened [] := by
  have hgap : ∀ {gap : List Char}, (∀ c ∈ gap, isGap c = true) → '$' ∉ gap := fun h hmem =>
    absurd (h '$' hmem) (by decide)
  simp [opened, hgap l.before_gap, hgap l.behind_gap]

theorem interpolate_template {value? : String → Option String} {name value : String}
    (hname : '\x7d' ∉ name.toList) (hvalue : value? name = some value) :
    interpolate value? (String.ofList (l.template name))
      = .ok (String.ofList (l.file value.toList)) := by
  have hbehind : '$' ∉ '"' :: l.tail := by
    rw [List.mem_cons, not_or]
    exact ⟨by decide, l.tail_blank.notMem (by decide) (by decide)⟩
  have hfill := Interpolation.fill_placeholder l.dollar_notMem_opened hbehind hname hvalue
  have htemplate : l.template name
      = l.opened [] ++ '$' :: '\x7b' :: (name.toList ++ '\x7d' :: '"' :: l.tail) := by
    rw [template, file, opened_eq]
    simp
  rw [interpolate, String.toList_ofList, htemplate, hfill, ← opened_eq]
  rfl

end Layout

/-! ### Loading it -/

section

variable {w : World} {wishes : Wishes} {path name value : String} (l : Layout)

/-- What is said of the world: the settings file holds a placeholder for the path of the catalog,
its variable has this value, and nobody else speaks of the settings. -/
structure Substituted (w : World) (wishes : Wishes) (l : Layout) (name value : String) : Prop where
  file : ∃ path, filePath? w wishes.filePath = some path ∧
    w.readText path = .ok (String.ofList (l.template name))
  /-- The name ends at the first closing brace. -/
  closed : '\x7d' ∉ name.toList
  isSet : w.value? name = some value
  unheard : ∀ k, variableFor? w k = none
  unfixed : wishes.overrides = .silent

theorem variableFaults_of_none (h : ∀ k, variableFor? w k = none) : variableFaults w = [] := by
  refine List.filterMap_eq_nil_iff.2 fun k _ => ?_
  rw [variableFault?, h k, Option.bind_none]

/-- The path of the catalog has no part in what is wrong with another setting. -/
theorem violationOf?_withPath (s : Settings) (path : Option String) {k : Key}
    (hk : k ≠ .catalogPath) : { s with catalogPath := path }.violationOf? k = s.violationOf? k := by
  cases k with
  | catalogPath => exact absurd rfl hk
  | _ => rfl

theorem violations_defaultWithPath {path : String} (hne : path ≠ "") :
    { default with catalogPath := some path }.violations = [] := by
  have hdefault : ∀ k ∈ Key.all, default.violationOf? k = none := by decide
  refine List.filterMap_eq_nil_iff.2 fun k hk => ?_
  by_cases hpath : k = .catalogPath
  · subst hpath
    exact if_neg fun hempty => hne (Option.some.inj hempty)
  · rw [violationOf?_withPath default _ hpath]
    exact hdefault k hk

variable {l}

theorem Substituted.layered_iff (h : Substituted w wishes l name value) {file : Layer}
    {s : Settings} :
    Layered w wishes.overrides file s ↔ ∀ k, s.get k = (file.get k).or (default.get k) := by
  have hsays : ∀ k, variableSays w k = none := fun k => by
    rw [variableSays, textFor?, h.unheard k, Option.map_none, Option.bind_none]
  unfold Layered
  simp only [h.unfixed, Layer.get_silent, hsays, Option.none_or]

theorem Substituted.load_of_verbatim (h : Substituted w wishes l name value) (hne : value ≠ "")
    (hverbatim : ∀ c ∈ value.toList, Verbatim c) :
    load w wishes = .ok { default with catalogPath := some value } := by
  obtain ⟨path, hpath, htext⟩ := h.file
  have hchars : value.toList ≠ [] := fun hnil => hne (String.toList_eq_nil_iff.1 hnil)
  have hread := l.read?_file hchars hverbatim
  rw [String.ofList_toList] at hread
  have hlayer : Layer.ofDocument? [("catalog", .record [("path", .text value)])]
      = some { Layer.silent with catalogPath := some value } := rfl
  refine load_eq_of_loads (.loaded (.found (usesFile_of_filePath? hpath) (.layer htext
    (l.interpolate_template h.closed h.isSet) hread hlayer (fileSays_of_ofDocument? hlayer)))
    (variableFaults_of_none h.unheard) (h.layered_iff.2 ?_) (violations_defaultWithPath hne))
  intro k
  cases k <;> rfl

/-- A document with a text for the path of the catalog says that it is that. -/
theorem said_eq_some_of_text {document fields : List (String × Data)}
    {said : Option Key.catalogPath.Value}
    (hsection : document.lookup "catalog" = some (.record fields))
    (hfield : fields.lookup "path" = some (.text path))
    (h : FileSays document .catalogPath said) : said = some path := by
  cases h with
  | unsaid hnone => exact nomatch hsection.symm.trans hnone
  | said hsection' hrow hsays =>
      cases hsection.symm.trans hsection'
      cases hrow
      cases hsays with
      | silent hnull => exact nomatch hnull _ hfield
      | written hfield' _ hvalue =>
          cases hfield.symm.trans hfield'
          exact hvalue.symm

theorem Substituted.verbatim_of_load (h : Substituted w wishes l name value) {s : Settings}
    (hload : load w wishes = .ok s) (hs : s.catalogPath = some value) :
    ∀ c ∈ value.toList, Verbatim c := by
  obtain ⟨path, hpath, htext⟩ := h.file
  have hloads := loads_load w wishes
  rw [hload] at hloads
  cases hloads with
  | @loaded file _ hfile _ hlayered _ =>
  have hsaid : s.get .catalogPath = _ := h.layered_iff.1 hlayered .catalogPath
  cases hfile with
  | nothing hnowhere _ => exact nomatch (filePath?_eq_of_usesFile hnowhere).symm.trans hpath
  | found huses hgives =>
  cases (filePath?_eq_of_usesFile huses).symm.trans hpath
  cases hgives with
  | @layer raw filled document _ hraw hfilled hdocument _ hsays =>
  cases htext.symm.trans hraw
  cases (l.interpolate_template h.closed h.isSet).symm.trans hfilled
  obtain ⟨text, left, fields, htaken, hsection, hfield⟩ := l.path_of_read? hdocument
  have hget : file.get .catalogPath = some text :=
    said_eq_some_of_text hsection hfield <| hsays .catalogPath
  rw [hget, Option.some_or] at hsaid
  cases hs.symm.trans hsaid
  rw [← String.ofList_toList (s := value)] at htaken
  exact l.verbatim_of_takeText (by rwa [String.toList_ofList] at htaken)

/-- **What may be put into a file.**  A placeholder between double quotes gives its value to the
setting, and leaves the others alone, exactly if every character of the value stands for itself
there: it is no quote, no backslash, and no control character but the tab.  With any other value
the setting does not get it. -/
theorem load_placeholder_iff (h : Substituted w wishes l name value) (hne : value ≠ "") :
    (load w wishes = .ok { default with catalogPath := some value } ↔
      ∀ c ∈ value.toList, Verbatim c) ∧
    ∀ s, load w wishes = .ok s → s.catalogPath = some value →
      s = { default with catalogPath := some value } := by
  refine ⟨⟨fun hload => h.verbatim_of_load hload rfl, h.load_of_verbatim hne⟩, ?_⟩
  intro s hload hs
  rw [h.load_of_verbatim hne (h.verbatim_of_load hload hs)] at hload
  exact (Except.ok.inj hload).symm

end

/-- A file as people write it. -/
def spacedLayout : Layout :=
  ⟨[' '], [' '], ['\n'], by simp [isGap], by simp [isGap], by simp [Toml.Blank]⟩

/-- A world with that file and a variable that the file uses. -/
def worldWith (value : String) : World :=
  ⟨[("invoiceflow.toml", .text (String.ofList (spacedLayout.template "CATALOG")))],
    [("CATALOG", value)]⟩

theorem substituted_worldWith (value : String) :
    Substituted (worldWith value) .none spacedLayout "CATALOG" value where
  file := by
    -- the value is not looked at on the way to the file
    have hlocate : ∀ path, (worldWith value).locate path = (worldWith "").locate path := fun _ => rfl
    have hpath : usualPaths.find? (worldWith "").hasPath = some "invoiceflow.toml" := by
      decide +kernel
    have htext : (worldWith "").readText "invoiceflow.toml"
        = .ok (String.ofList (spacedLayout.template "CATALOG")) := by decide +kernel
    have hhas : (worldWith value).hasPath = (worldWith "").hasPath :=
      funext fun path => hasPath_congr (hlocate path)
    refine ⟨"invoiceflow.toml", ?_, by rw [readText_congr (hlocate _), htext]⟩
    show usualPaths.find? (worldWith value).hasPath = some "invoiceflow.toml"
    rw [hhas, hpath]
  closed := by decide
  isSet := by
    show some (String.ofList value.toList) = some value
    rw [String.ofList_toList]
  unheard k := by
    cases k <;> rfl
  unfixed := rfl

/-- A path with characters that mean something to TOML elsewhere. -/
def hashedPath : String := "catalogs/[server] #1 = '$\x7bHOME\x7d'.toml"

theorem load_placeholder_iff_hashed :
    Substituted (worldWith hashedPath) .none spacedLayout "CATALOG" hashedPath ∧
      hashedPath ≠ "" ∧ (∀ c ∈ hashedPath.toList, Verbatim c) ∧
      load (worldWith hashedPath) .none = .ok { default with catalogPath := some hashedPath } := by
  have hne : hashedPath ≠ "" := by decide
  have hall : hashedPath.toList.all (fun c => decide (Verbatim c)) = true := by decide +kernel
  have hverbatim : ∀ c ∈ hashedPath.toList, Verbatim c := fun c hc =>
    of_decide_eq_true (List.all_eq_true.1 hall c hc)
  have hiff := (load_placeholder_iff (substituted_worldWith hashedPath) hne).1
  exact ⟨substituted_worldWith hashedPath, hne, hverbatim, hiff.2 hverbatim⟩

/-- A value that closes the text it is put into, and goes on with settings of its own. -/
def escapingPath : String := "x\"\n[server]\nport = 9\n[notifications]\nchannel = \"y"

/-- A variable can change other settings, and make the file unreadable. -/
theorem placeholder_value_read_as_toml :
    Substituted (worldWith escapingPath) .none spacedLayout "CATALOG" escapingPath ∧
      load (worldWith escapingPath) .none
        = .ok { default with catalogPath := some "x", port := 9, channel := "y" } ∧
      Substituted (worldWith "a\"b") .none spacedLayout "CATALOG" "a\"b" ∧
      load (worldWith "a\"b") .none = .error (.malformed "invoiceflow.toml" Toml.failureText) :=
  ⟨substituted_worldWith _, by decide +kernel, substituted_worldWith _, by decide +kernel⟩

end Settings

end InvoiceApproval
