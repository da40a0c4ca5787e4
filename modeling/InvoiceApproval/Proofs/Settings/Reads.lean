/-
What the loading of settings looks at.

Loading looks at few paths and at few variables, and nothing else in the world counts.  The
paths are those on the way to the settings file; the variables are those of the settings, and
those in the placeholders of the file that was found.  Two worlds that agree on these give
the same settings or the same error (`load_congr`).

A variable is found by its name and an equals sign at the beginning of an entry, so an entry
that no name finds may be taken out of the environment (`load_knownBy`).  Where no name has an
equals sign in it, these are the entries of all other names (`load_named`).
-/
import InvoiceApproval.Settings.Loading
import Mathlib.Data.List.Basic

namespace InvoiceApproval

/-! ### Entries of the environment -/

namespace World

/-- Whether a variable that is looked for by this name may be found in an entry. -/
def finds (name : String) (entry : String × String) : Bool :=
  (name.toList ++ ['=']).isPrefixOf (entry.1.toList ++ '=' :: entry.2.toList)

/-- The world with those variables only that some of these names find. -/
def knownBy (w : World) (names : List String) : World :=
  { w with environment := w.environment.filter fun entry => names.any fun name => finds name entry }

/-- Where names have no equals sign, an entry is found by its own name alone. -/
theorem finds_iff_eq {name : String} {entry : String × String} (hname : '=' ∉ name.toList)
    (hentry : '=' ∉ entry.1.toList) : finds name entry = true ↔ name = entry.1 := by
  rw [finds, List.isPrefixOf_iff_prefix]
  constructor
  · rintro ⟨rest, hrest⟩
    have hcut : ∀ {cs : List Char} (more : List Char), '=' ∉ cs →
        (cs ++ '=' :: more).takeWhile (· ≠ '=') = cs := by
      intro cs more hcs
      rw [List.takeWhile_append_of_pos fun c hc => by
        simpa using fun (h : c = '=') => hcs (h ▸ hc)]
      simp
    refine String.toList_injective ?_
    rw [← hcut rest hname, ← hcut entry.2.toList hentry, ← hrest]
    simp
  · rintro rfl
    exact ⟨entry.2.toList, by simp⟩

/-- Where names have no equals sign, the variables that some of them find are theirs. -/
theorem knownBy_eq_filter {w : World} {names : List String}
    (hnames : ∀ name ∈ names, '=' ∉ name.toList)
    (hentries : ∀ entry ∈ w.environment, '=' ∉ entry.1.toList) :
    w.knownBy names = { w with environment := w.environment.filter fun entry => entry.1 ∈ names } := by
  have hsame : w.environment.filter (fun entry => names.any fun name => finds name entry)
      = w.environment.filter fun entry => entry.1 ∈ names := by
    refine List.filter_congr fun entry hentry => ?_
    rw [Bool.eq_iff_iff, List.any_eq_true, decide_eq_true_iff]
    constructor
    · rintro ⟨name, hname, hfinds⟩
      rw [← (finds_iff_eq (hnames name hname) (hentries entry hentry)).1 hfinds]
      exact hname
    · intro hname
      exact ⟨_, hname, (finds_iff_eq (hnames _ hname) (hentries entry hentry)).2 rfl⟩
  rw [knownBy, hsame]

/-- Entries in which nothing is found may be left out of a search. -/
theorem findSome?_filter_of_none {α β : Type} {f : α → Option β} {p : α → Bool}
    (h : ∀ a, p a = false → f a = none) (l : List α) :
    (l.filter p).findSome? f = l.findSome? f := by
  induction l with
  | nil => rfl
  | cons a l ih =>
      cases hp : p a with
      | true => rw [List.filter_cons_of_pos hp, List.findSome?_cons, List.findSome?_cons, ih]
      | false =>
          rw [List.filter_cons_of_neg (by simp [hp]), List.findSome?_cons, h a hp, ih]

/-- **A name has the same value without the entries that no name finds.** -/
theorem value?_knownBy {w : World} {names : List String} {name : String} (h : name ∈ names) :
    (w.knownBy names).value? name = w.value? name := by
  refine findSome?_filter_of_none (fun entry hlost => ?_) w.environment
  have hnot : finds name entry = false := by
    simpa using List.any_eq_false.1 hlost name h
  rw [finds, ← List.isSome_isPrefixOf?_eq_isPrefixOf, Option.isSome_eq_false_iff,
    Option.isNone_iff_eq_none] at hnot
  simp [hnot]

end World

/-! ### Placeholders -/

/-- **Filling a text looks only at the names in its placeholders.** -/
theorem Interpolation.fill_congr {value? value?' : String → Option String}
    {name : Option (List Char)} {cs : List Char}
    (h : ∀ n ∈ names name cs, value?' n = value? n) :
    fill value?' name cs = fill value? name cs := by
  -- The walk of the filling; a name is looked up in one place, at the closing brace.
  induction name, cs using fill.induct with
  | case1 => rfl
  | case2 rest ih => exact ih h
  | case3 c rest hplain ih =>
      rw [names] at h
      · rw [fill, fill, ih h] <;> exact hplain
      · exact hplain
  | case4 name => rfl
  | case5 name rest ih =>
      rw [names, List.forall_mem_cons] at h
      rw [fill, fill, valueOf, valueOf, h.1, ih h.2]
  | case6 name c rest hopen ih =>
      rw [names] at h
      · rw [fill, fill, ih h] <;> exact hopen
      · exact hopen

namespace Settings

/-! ### Paths and names -/

/-- The paths that are looked at: the named one, or else the usual ones up to the first at
which there is something. -/
def pathsSeen (w : World) : Option String → List String
  | some path => [path]
  | none => usualPaths.take (usualPaths.findIdx w.hasPath + 1)

/-- The names in the placeholders of the file at a path. -/
def namesInFile (w : World) (path : String) : List String :=
  match w.readText path with
  | .ok raw => Interpolation.names none raw.toList
  | .error _ => []

/-- The names of the variables that are looked at: those of the settings, and those in the
placeholders of the settings file. -/
def namesSeen (w : World) (named : Option String) : List String :=
  Key.all.flatMap Key.variableNames ++ (filePath? w named).elim [] (namesInFile w)

/-- Two worlds that look the same to whoever loads the settings. -/
structure Alike (w w' : World) (named : Option String) : Prop where
  paths : ∀ path ∈ pathsSeen w named, w'.locate path = w.locate path
  values : ∀ name ∈ namesSeen w named, w'.value? name = w.value? name

variable {w w' : World} {named : Option String}

/-- Searches that agree up to the first find have the same result. -/
theorem find?_congr_take {α : Type} {p q : α → Bool} {l : List α}
    (h : ∀ a ∈ l.take (l.findIdx p + 1), q a = p a) : l.find? q = l.find? p := by
  induction l with
  | nil => rfl
  | cons a l ih =>
      have ha : q a = p a := h a (by simp)
      cases hp : p a with
      | true => rw [List.find?_cons_of_pos (ha.trans hp), List.find?_cons_of_pos hp]
      | false =>
          rw [List.find?_cons_of_neg (by simp [ha, hp]), List.find?_cons_of_neg (by simp [hp])]
          refine ih fun b hb => h b ?_
          rw [List.findIdx_cons, hp]
          exact List.mem_cons_of_mem a hb

/-- What is found is within the part that is searched. -/
theorem mem_take_of_find? {α : Type} {p : α → Bool} {a : α} {l : List α}
    (h : l.find? p = some a) : a ∈ l.take (l.findIdx p + 1) := by
  induction l with
  | nil => cases h
  | cons b l ih =>
      cases hp : p b with
      | true =>
          rw [List.find?_cons_of_pos hp] at h
          simp [Option.some.inj h]
      | false =>
          rw [List.find?_cons_of_neg (by simp [hp])] at h
          rw [List.findIdx_cons, hp]
          exact List.mem_cons_of_mem b (ih h)

theorem hasPath_congr {path : String} (h : w'.locate path = w.locate path) :
    w'.hasPath path = w.hasPath path := by
  rw [World.hasPath, World.hasPath, h]

theorem readText_congr {path : String} (h : w'.locate path = w.locate path) :
    w'.readText path = w.readText path := by
  rw [World.readText, World.readText, h]

/-- A file that is found is one of those that are looked at. -/
theorem mem_pathsSeen {path : String} (h : filePath? w named = some path) :
    path ∈ pathsSeen w named := by
  cases named with
  | some other =>
      rw [filePath?] at h
      split_ifs at h
      exact List.mem_singleton.2 (Option.some.inj h).symm
  | none => exact mem_take_of_find? h

namespace Alike

theorem filePath?_eq (h : Alike w w' named) : filePath? w' named = filePath? w named := by
  cases named with
  | some path =>
      rw [filePath?, filePath?, hasPath_congr (h.paths path (List.mem_singleton_self _))]
  | none =>
      exact find?_congr_take fun path hpath => hasPath_congr (h.paths path hpath)

theorem ofFile_eq (h : Alike w w' named) {path : String} (hpath : filePath? w named = some path) :
    Layer.ofFile w' path = Layer.ofFile w path := by
  have hread : w'.readText path = w.readText path :=
    readText_congr (h.paths path (mem_pathsSeen hpath))
  unfold Layer.ofFile
  rw [hread]
  cases hraw : w.readText path with
  | error cause => rfl
  | ok raw =>
      have hfill : interpolate w'.value? raw = interpolate w.value? raw := by
        rw [interpolate, interpolate, Interpolation.fill_congr fun name hname =>
          h.values name (by simp [namesSeen, hpath, namesInFile, hraw, hname])]
      change (interpolate w'.value? raw).mapError _ >>= _
        = (interpolate w.value? raw).mapError _ >>= _
      rw [hfill]

theorem ofFiles_eq (h : Alike w w' named) (required : Bool) :
    Layer.ofFiles w' named required = Layer.ofFiles w named required := by
  unfold Layer.ofFiles
  rw [h.filePath?_eq]
  cases hpath : filePath? w named with
  | none => rfl
  | some path => exact h.ofFile_eq hpath

theorem variableFor?_eq (h : Alike w w' named) (k : Key) :
    variableFor? w' k = variableFor? w k := by
  unfold variableFor? filledValue?
  rw [← List.head?_filterMap, ← List.head?_filterMap]
  refine congrArg List.head? (List.filterMap_congr fun name hname => ?_)
  rw [h.values name (List.mem_append_left _ (List.mem_flatMap.2 ⟨k, k.mem_all, hname⟩))]

theorem ofVariables_eq (h : Alike w w' named) : Layer.ofVariables w' = Layer.ofVariables w := by
  unfold Layer.ofVariables valueFor textFor?
  simp only [h.variableFor?_eq]

end Alike

/-- **Loading looks at nothing else.** -/
theorem load_congr {wishes : Wishes} (h : Alike w w' wishes.filePath) :
    load w' wishes = load w wishes := by
  unfold load
  rw [h.ofFiles_eq, h.ofVariables_eq]

theorem load_knownBy (w : World) (wishes : Wishes) :
    load (w.knownBy (namesSeen w wishes.filePath)) wishes = load w wishes :=
  load_congr ⟨fun _ _ => rfl, fun _ hname => World.value?_knownBy hname⟩

/-- **Settings hang on no variable but those that are named**, where names have no equals sign. -/
theorem load_named {wishes : Wishes}
    (hnames : ∀ name ∈ namesSeen w wishes.filePath, '=' ∉ name.toList)
    (hentries : ∀ entry ∈ w.environment, '=' ∉ entry.1.toList) :
    load { w with
      environment := w.environment.filter fun entry => entry.1 ∈ namesSeen w wishes.filePath }
        wishes = load w wishes := by
  rw [← World.knownBy_eq_filter hnames hentries]
  exact load_knownBy w wishes

end Settings

end InvoiceApproval
