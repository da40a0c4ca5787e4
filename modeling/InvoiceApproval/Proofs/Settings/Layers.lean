/-
Layers, one setting at a time.

A layer is a record of eight fields, and what is said about layers holds of each of them in
the same way.  So a layer is taken here as a function that gives for a setting what the layer
says of it: `Layer.get`.  Settings are taken the same way, and a layer that lies on others is
then one equation, `get_under`.

The three kinds of layers differ in what they read.  `variableSays` is what the variables say
of a setting and `variableFault?` the complaint about them; `ofVariables_eq` puts the layer
together from the one and ends with the first of the other.  `FileSays` is what a document
says of a setting, in the section and under the name that the setting has there.
-/
import InvoiceApproval.Settings.Loading

namespace InvoiceApproval.Settings

variable {w : World} {k : Key}

/-! ### The fields of a layer -/

/-- The values that a setting can have. -/
abbrev Key.Value : Key → Type
  | .bindAddress | .catalogPath | .channel | .logLevel => String
  | .port | .requestTimeoutSecs => Nat
  | .catalogStrict => Bool
  | .logFormat => LogFormat

/-- What a layer says of a setting. -/
def Layer.get (layer : Layer) : (k : Key) → Option k.Value
  | .bindAddress => layer.bindAddress
  | .port => layer.port
  | .requestTimeoutSecs => layer.requestTimeoutSecs
  | .catalogPath => layer.catalogPath
  | .catalogStrict => layer.catalogStrict
  | .channel => layer.channel
  | .logLevel => layer.logLevel
  | .logFormat => layer.logFormat

/-- The layer that says this. -/
def Layer.saying (said : (k : Key) → Option k.Value) : Layer where
  bindAddress := said .bindAddress
  port := said .port
  requestTimeoutSecs := said .requestTimeoutSecs
  catalogPath := said .catalogPath
  catalogStrict := said .catalogStrict
  channel := said .channel
  logLevel := said .logLevel
  logFormat := said .logFormat

/-- The value of a setting.  Only the catalog file may have none. -/
def get (s : Settings) : (k : Key) → Option k.Value
  | .bindAddress => some s.bindAddress
  | .port => some s.port
  | .requestTimeoutSecs => some s.requestTimeoutSecs
  | .catalogPath => s.catalogPath
  | .catalogStrict => some s.catalogStrict
  | .channel => some s.channel
  | .logLevel => some s.logLevel
  | .logFormat => some s.logFormat

@[simp] theorem Layer.get_saying (said : (k : Key) → Option k.Value) (k : Key) :
    (Layer.saying said).get k = said k := by
  cases k <;> rfl

@[simp] theorem Layer.get_silent (k : Key) : Layer.silent.get k = none := by
  cases k <;> rfl

/-- Settings are known by their values. -/
theorem ext_get {s t : Settings} (h : ∀ k, s.get k = t.get k) : s = t := by
  have h1 := h .bindAddress
  have h2 := h .port
  have h3 := h .requestTimeoutSecs
  have h4 := h .catalogPath
  have h5 := h .catalogStrict
  have h6 := h .channel
  have h7 := h .logLevel
  have h8 := h .logFormat
  simp only [get, Option.some.injEq] at h1 h2 h3 h4 h5 h6 h7 h8
  cases s
  cases t
  exact (Settings.mk.injEq ..).mpr ⟨h1, h2, h3, h4, h5, h6, h7, h8⟩

/-- **A layer on top decides what it speaks of, and leaves the rest as it is.** -/
theorem get_under (s : Settings) (top : Layer) (k : Key) :
    (s.under top).get k = (top.get k).or (s.get k) := by
  cases k <;> simp only [get, under, Layer.get, Option.or_some]

/-! ### The variables -/

/-- Reads the value of a variable for a setting. -/
def Key.read : (k : Key) → String → Option k.Value
  | .bindAddress, s | .catalogPath, s | .channel, s | .logLevel, s => some s
  | .port, s => Text.unsignedBelow? UInt16.size s.toList
  | .requestTimeoutSecs, s => Text.unsignedBelow? UInt64.size s.toList
  | .catalogStrict, s => readFlag s
  | .logFormat, s => LogFormat.ofName? (Text.asciiLower (Text.trim s))

/-- The complaint about a variable whose value cannot be read.  The one about the format
names the format and not the variable. -/
def Key.refusal : Key → String → String → SettingsError
  | .logFormat, _, value => .invalid (.unknownLogFormat (Text.asciiLower (Text.trim value)))
  | _, name, value => .badVariable name value

/-- What the variables say of a setting. -/
def variableSays (w : World) (k : Key) : Option k.Value := (textFor? w k).bind k.read

/-- The complaint about the variable that speaks of a setting. -/
def variableFault? (w : World) (k : Key) : Option SettingsError :=
  (variableFor? w k).bind fun (name, value) =>
    if (k.read value).isSome then none else some (k.refusal name value)

/-- The complaints about the variables, in the order in which the settings are listed. -/
def variableFaults (w : World) : List SettingsError := Key.all.filterMap (variableFault? w)

/-- What the variables say of a setting, or the complaint about them. -/
def heard (w : World) (k : Key) : Except SettingsError (Option k.Value) :=
  match variableFault? w k with
  | some e => .error e
  | none => .ok (variableSays w k)

/-- A setting that takes any text has nothing to complain about. -/
theorem variableFault?_of_text (h : ∀ s, (k.read s).isSome) : variableFault? w k = none := by
  unfold variableFault?
  cases variableFor? w k with
  | none => rfl
  | some entry => simp [h]

/-- A setting whose complaint names the variable is read by `valueFor`. -/
theorem valueFor_eq_heard (h : ∀ name value, k.refusal name value = .badVariable name value) :
    valueFor w k k.read = heard w k := by
  unfold valueFor heard variableFault? variableSays textFor?
  cases variableFor? w k with
  | none => rfl
  | some entry =>
      cases hread : k.read entry.2 <;> simp [hread, h]

/-- The format has its own reader, with a complaint of its own. -/
theorem parse_eq_heard : (textFor? w .logFormat).mapM LogFormat.parse = heard w .logFormat := by
  unfold heard variableFault? variableSays textFor?
  cases variableFor? w .logFormat with
  | none => rfl
  | some entry =>
      cases hread : LogFormat.ofName? (Text.asciiLower (Text.trim entry.2)) <;>
        simp [Key.read, Key.refusal, LogFormat.parse, hread, Functor.map, Except.map]

/-- **The variables are heard in the order of the settings: the first that cannot be read ends
the loading, and if all can be read, the layer says what they say.** -/
theorem ofVariables_eq (w : World) :
    Layer.ofVariables w = match (variableFaults w).head? with
      | some e => .error e
      | none => .ok (.saying (variableSays w)) := by
  have hport : (valueFor w .port fun s => Text.unsignedBelow? UInt16.size s.toList)
      = heard w .port := valueFor_eq_heard fun _ _ => rfl
  have htimeout : (valueFor w .requestTimeoutSecs fun s => Text.unsignedBelow? UInt64.size s.toList)
      = heard w .requestTimeoutSecs := valueFor_eq_heard fun _ _ => rfl
  have hstrict : valueFor w .catalogStrict readFlag = heard w .catalogStrict :=
    valueFor_eq_heard fun _ _ => rfl
  have htext : ∀ said : Option String, said = said.bind some := fun said =>
    (Option.bind_fun_some said).symm
  rw [variableFaults, List.head?_filterMap]
  unfold Layer.ofVariables
  rw [hport, htimeout, hstrict, parse_eq_heard]
  simp only [Key.all, List.findSome?_cons, heard,
    variableFault?_of_text (k := .bindAddress) fun _ => rfl,
    variableFault?_of_text (k := .catalogPath) fun _ => rfl,
    variableFault?_of_text (k := .channel) fun _ => rfl,
    variableFault?_of_text (k := .logLevel) fun _ => rfl]
  -- the four settings that are read, one after the other: a fault ends both sides
  cases variableFault? w .port with
  | some e => rfl
  | none =>
  cases variableFault? w .requestTimeoutSecs with
  | some e => rfl
  | none =>
  cases variableFault? w .catalogStrict with
  | some e => rfl
  | none =>
  cases variableFault? w .logFormat with
  | some e => rfl
  | none =>
      exact congrArg Except.ok ((Layer.mk.injEq ..).mpr
        ⟨htext _, rfl, rfl, htext _, rfl, htext _, htext _, rfl⟩)

/-! ### The file -/

namespace Key

/-- Reads what a document has for a setting. -/
def ofData : (k : Key) → Data → Option k.Value
  | .bindAddress, d | .catalogPath, d | .channel, d | .logLevel, d => d.text?
  | .port, d => portOfData? d
  | .requestTimeoutSecs, d => secondsOfData? d
  | .catalogStrict, d => d.bool?
  | .logFormat, d => formatOfData? d

/-- The names of the settings in a section, in their order. -/
def namesIn (name : String) : List String :=
  (all.filter fun k => k.place.1 == name).map fun k => k.place.2

/-- Where a setting stands in its section, if the section is written as a list. -/
def rank (k : Key) : Nat := (namesIn k.place.1).idxOf k.place.2

end Key

/-- What a document says of a setting: nothing without the section, and else what the section
has for it. -/
inductive FileSays (document : List (String × Data)) (k : Key) : Option k.Value → Prop
  | unsaid : document.lookup k.place.1 = none → FileSays document k none
  | said {d : Data} {row : Data.Row} {value : Option k.Value} :
    document.lookup k.place.1 = some d →
    Data.Row.of? .settings (Key.namesIn k.place.1) d = some row →
    row.Says k.rank k.place.2 k.ofData value → FileSays document k value

/-- Whether a step takes the section of this name and nothing else into a layer. -/
def Takes (name : String) (take : Layer → Data → Option Layer) : Prop :=
  ∀ {layer taken : Layer} {d : Data}, take layer d = some taken →
    ∃ row, Data.Row.of? .settings (Key.namesIn name) d = some row ∧ ∀ k : Key,
      k.place.1 = name ∧ row.Says k.rank k.place.2 k.ofData (taken.get k)
        ∨ k.place.1 ≠ name ∧ taken.get k = layer.get k

theorem takes_server : Takes "server" Layer.withServer := by
  intro layer taken d h
  simp only [Layer.withServer, Option.bind_eq_bind, Option.bind_eq_some_iff] at h
  obtain ⟨row, hrow, address, haddress, port, hport, timeout, htimeout, h⟩ := h
  cases h
  refine ⟨row, hrow, fun k => ?_⟩
  cases k with
  | bindAddress => exact .inl ⟨rfl, Data.Row.says_of_optional haddress⟩
  | port => exact .inl ⟨rfl, Data.Row.says_of_optional hport⟩
  | requestTimeoutSecs => exact .inl ⟨rfl, Data.Row.says_of_optional htimeout⟩
  | _ => exact .inr ⟨by decide, rfl⟩

/-- A section of two settings is taken by a step that reads the one and then the other and puts
both into the layer. -/
theorem takes_pair {name : String} {take : Layer → Data → Option Layer} {first second : Key}
    (put : Layer → Option first.Value → Option second.Value → Layer)
    (htake : ∀ layer d, take layer d = do
      let row ← Data.Row.of? .settings (Key.namesIn name) d
      return put layer (← row.optional first.rank first.place.2 first.ofData)
        (← row.optional second.rank second.place.2 second.ofData))
    (hfirst : ∀ layer x y, (put layer x y).get first = x)
    (hsecond : ∀ layer x y, (put layer x y).get second = y)
    (hothers : ∀ layer x y k, k ≠ first → k ≠ second → (put layer x y).get k = layer.get k)
    (hsection : ∀ k : Key, k.place.1 = name ↔ k = first ∨ k = second) : Takes name take := by
  intro layer taken d h
  simp only [htake, Option.bind_eq_bind, Option.bind_eq_some_iff] at h
  obtain ⟨row, hrow, x, hx, y, hy, h⟩ := h
  cases h
  refine ⟨row, hrow, fun k => ?_⟩
  by_cases hk : k.place.1 = name
  · refine .inl ⟨hk, ?_⟩
    rcases (hsection k).1 hk with rfl | rfl
    · rw [hfirst]
      exact Data.Row.says_of_optional hx
    · rw [hsecond]
      exact Data.Row.says_of_optional hy
  · have hneither := mt (hsection k).2 hk
    exact .inr ⟨hk, hothers layer x y k (mt .inl hneither) (mt .inr hneither)⟩

theorem takes_catalog : Takes "catalog" Layer.withCatalog := by
  refine @takes_pair "catalog" _ .catalogPath .catalogStrict
    (fun layer path strict => { layer with catalogPath := path, catalogStrict := strict })
    (fun _ _ => rfl) (fun _ _ _ => rfl) (fun _ _ _ => rfl) (fun _ _ _ k hfirst hsecond => ?_)
    fun k => ?_
  · cases k <;> first | rfl | contradiction
  · cases k <;> decide

theorem takes_logging : Takes "logging" Layer.withLogging := by
  refine @takes_pair "logging" _ .logLevel .logFormat
    (fun layer level format => { layer with logLevel := level, logFormat := format })
    (fun _ _ => rfl) (fun _ _ _ => rfl) (fun _ _ _ => rfl) (fun _ _ _ k hfirst hsecond => ?_)
    fun k => ?_
  · cases k <;> first | rfl | contradiction
  · cases k <;> decide

theorem takes_notifications : Takes "notifications" Layer.withNotifications := by
  intro layer taken d h
  simp only [Layer.withNotifications, Option.bind_eq_bind, Option.bind_eq_some_iff] at h
  obtain ⟨row, hrow, channel, hchannel, h⟩ := h
  cases h
  refine ⟨row, hrow, fun k => ?_⟩
  cases k with
  | channel => exact .inl ⟨rfl, Data.Row.says_of_optional hchannel⟩
  | _ => exact .inr ⟨by decide, rfl⟩

/-- What is known of a layer once some sections are taken: of a setting in one of them it says
what the document says, and of the others nothing. -/
def Covers (document : List (String × Data)) (done : List String) (layer : Layer) : Prop :=
  ∀ k : Key, k.place.1 ∈ done ∧ FileSays document k (layer.get k)
    ∨ k.place.1 ∉ done ∧ layer.get k = none

theorem Covers.withSection {document : List (String × Data)} {done : List String}
    {layer taken : Layer} {name : String} {take : Layer → Data → Option Layer}
    (hcovers : Covers document done layer) (htakes : Takes name take)
    (hnew : name ∉ done) (h : layer.withSection document name take = some taken) :
    Covers document (name :: done) taken := by
  intro k
  -- a setting of another section is as it was
  have hother (hk : k.place.1 ≠ name) (hkept : taken.get k = layer.get k) :
      k.place.1 ∈ name :: done ∧ FileSays document k (taken.get k)
        ∨ k.place.1 ∉ name :: done ∧ taken.get k = none := by
    simpa only [hkept, List.mem_cons, hk, false_or] using hcovers k
  unfold Layer.withSection at h
  split at h
  · rename_i d hd
    obtain ⟨row, hrow, hsays⟩ := htakes h
    rcases hsays k with ⟨hk, hk_says⟩ | ⟨hk, hkept⟩
    · exact .inl ⟨hk ▸ List.mem_cons_self, .said (hk ▸ hd) (hk ▸ hrow) hk_says⟩
    · exact hother hk hkept
  · rename_i hnone
    cases h
    by_cases hk : k.place.1 = name
    · rcases hcovers k with ⟨hdone, -⟩ | ⟨-, hsilent⟩
      · exact absurd (hk ▸ hdone) hnew
      · exact .inl ⟨hk ▸ List.mem_cons_self, hsilent ▸ .unsaid (hk ▸ hnone)⟩
    · exact hother hk rfl

/-- **The layer of a document says of each setting what the document says of it.** -/
theorem fileSays_of_ofDocument? {document : List (String × Data)} {layer : Layer}
    (h : Layer.ofDocument? document = some layer) (k : Key) : FileSays document k (layer.get k) := by
  simp only [Layer.ofDocument?, Option.bind_eq_bind, Option.bind_eq_some_iff] at h
  obtain ⟨server, hserver, catalog, hcatalog, notifications, hnotifications, hlogging⟩ := h
  have hsilent : Covers document [] .silent := fun k =>
    .inr ⟨List.not_mem_nil, Layer.get_silent k⟩
  have hcovers := (((hsilent.withSection takes_server (by decide) hserver).withSection takes_catalog
    (by decide) hcatalog).withSection takes_notifications (by decide) hnotifications).withSection
    takes_logging (by decide) hlogging
  rcases hcovers k with ⟨-, hsays⟩ | ⟨hmissing, -⟩
  · exact hsays
  · exact absurd (by cases k <;> decide) hmissing

/-! ### The check -/

/-- What is wrong with a setting. -/
def violationOf? (s : Settings) : Key → Option SettingsViolation
  | .bindAddress => if Text.isBlankText s.bindAddress then some .blankBindAddress else none
  | .port => if s.port = 0 then some .zeroPort else none
  | .requestTimeoutSecs =>
    if s.requestTimeoutSecs = 0 ∨ 300 < s.requestTimeoutSecs then some .timeoutOutOfRange else none
  | .catalogPath => if s.catalogPath = some "" then some .emptyCatalogPath else none
  | .channel => if Text.isBlankText s.channel then some .blankChannel else none
  | .logLevel =>
    if Text.asciiLower (Text.trim s.logLevel) ∈ logLevels then none else some .unknownLogLevel
  | .catalogStrict | .logFormat => none

/-- What is wrong with settings, in the order in which they are listed. -/
def violations (s : Settings) : List SettingsViolation := Key.all.filterMap s.violationOf?

/-- The check ends at the first setting that is wrong. -/
theorem violation?_eq_head? (s : Settings) : s.violation? = s.violations.head? := by
  rw [violations, List.head?_filterMap]
  simp only [Key.all, List.findSome?_cons, List.findSome?_nil, violationOf?]
  unfold violation?
  grind

theorem check_eq (s : Settings) : check s = match s.violations.head? with
    | some violation => .error (.invalid violation)
    | none => .ok s :=
  violation?_eq_head? s ▸ rfl

end InvoiceApproval.Settings
