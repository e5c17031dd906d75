import GoBindings.Proofs.Settings.SavedTables
import GoBindings.Settings.Catalog

/-!
# Loading settings

Settings are loaded by setting one after another. Setting one of them leaves the others alone, and
whether a value is taken does not depend on the rest, so loaded settings hold each value that was
given for a name, in whatever order the values came.
-/

namespace GoBindings

/-! ## Setting one setting -/

/-- Common settings that agree in all but the one of a certain name. -/
structure Settings.AgreeBut (name : String) (before after : Settings) : Prop where
  modelNamePrefix : name ≠ "model_name_prefix" → after.modelNamePrefix = before.modelNamePrefix
  modelNameSuffix : name ≠ "model_name_suffix" → after.modelNameSuffix = before.modelNameSuffix
  modelPackage : name ≠ "model_package" → after.modelPackage = before.modelPackage
  nameMapping : name ≠ "name_mapping" → after.nameMapping = before.nameMapping
  parameterNameMapping : name ≠ "parameter_name_mapping" →
    after.parameterNameMapping = before.parameterNameMapping
  modelNameMapping : name ≠ "model_name_mapping" → after.modelNameMapping = before.modelNameMapping
  enumNameMapping : name ≠ "enum_name_mapping" → after.enumNameMapping = before.enumNameMapping
  reservedWordsMapping : name ≠ "reserved_words_mapping" →
    after.reservedWordsMapping = before.reservedWordsMapping
  extraReservedWords : name ≠ "extra_reserved_words" →
    after.extraReservedWords = before.extraReservedWords
  typeMapping : name ≠ "type_mapping" → after.typeMapping = before.typeMapping
  importMapping : name ≠ "import_mapping" → after.importMapping = before.importMapping
  postProcessCommand : name ≠ "post_process_command" →
    after.postProcessCommand = before.postProcessCommand
  custom : name ≠ "custom" → after.custom = before.custom

/-- Settings of the Go target that agree in all but the one of a certain name. -/
structure GoSettings.AgreeBut (name : String) (before after : GoSettings) : Prop where
  common : Settings.AgreeBut name before.toSettings after.toSettings
  packageName : name ≠ "package_name" → after.packageName = before.packageName
  apiPackage : name ≠ "api_package" → after.apiPackage = before.apiPackage
  withXml : name ≠ "with_xml" → after.withXml = before.withXml
  withValidate : name ≠ "with_validate" → after.withValidate = before.withValidate
  generateMarshalJson : name ≠ "generate_marshal_json" →
    after.generateMarshalJson = before.generateMarshalJson
  generateUnmarshalJson : name ≠ "generate_unmarshal_json" →
    after.generateUnmarshalJson = before.generateUnmarshalJson
  enumFmtImport : name ≠ "enum_fmt_import" → after.enumFmtImport = before.enumFmtImport
  enumClassPrefix : name ≠ "enum_class_prefix" → after.enumClassPrefix = before.enumClassPrefix

/-- Common settings agree with themselves. -/
theorem Settings.AgreeBut.refl (name : String) (settings : Settings) :
    AgreeBut name settings settings := by
  constructor
  all_goals exact fun _ => rfl

/-- Setting one of the common settings leaves the others alone. -/
theorem Settings.agreeBut_of_set? {before after : Settings} {name : String} {value : Json}
    (set : before.set? name value = some after) : AgreeBut name before after := by
  rw [Settings.set?.eq_def] at set
  split at set
  all_goals first
    | cases set
    | obtain ⟨table, -, rfl⟩ := Option.map_eq_some_iff.1 set
  all_goals constructor
  all_goals first
    | exact fun _ => rfl
    | exact fun other => absurd rfl other

/-- Setting one of the settings of the Go target leaves the others alone. -/
theorem GoSettings.agreeBut_of_set? {before after : GoSettings} {name : String} {value : Json}
    (set : before.set? name value = some after) : AgreeBut name before after := by
  rw [GoSettings.set?.eq_def] at set
  split at set
  case h_9 =>
    obtain ⟨common, inner, rfl⟩ := Option.map_eq_some_iff.1 set
    refine ⟨Settings.agreeBut_of_set? inner, ?_, ?_, ?_, ?_, ?_, ?_, ?_, ?_⟩
    all_goals exact fun _ => rfl
  all_goals
    cases set
    refine ⟨Settings.AgreeBut.refl _ _, ?_, ?_, ?_, ?_, ?_, ?_, ?_, ?_⟩
  all_goals first
    | exact fun _ => rfl
    | exact fun other => absurd rfl other

/-- Whether a common setting takes a value does not depend on the settings. -/
theorem Settings.isSome_set? (settings other : Settings) (name : String) (value : Json) :
    (settings.set? name value).isSome = (other.set? name value).isSome := by
  rw [Settings.set?.eq_def settings, Settings.set?.eq_def other]
  split
  all_goals first
    | rfl
    | rw [Option.isSome_map, Option.isSome_map]

/-- Whether a setting of the Go target takes a value does not depend on the settings. -/
theorem GoSettings.isSome_set? (settings other : GoSettings) (name : String) (value : Json) :
    (settings.set? name value).isSome = (other.set? name value).isSome := by
  rw [GoSettings.set?.eq_def settings, GoSettings.set?.eq_def other]
  split
  case h_9 => rw [Option.isSome_map, Option.isSome_map, Settings.isSome_set?]
  all_goals rfl

/-- What is a setting of a kind has one of its names. -/
theorem SettingsKind.exists_of_hasField {kind : SettingsKind} {key : Label}
    (field : kind.hasField key = true) : ∃ name ∈ kind.fieldNames, key = .ofText name := by
  rw [hasField] at field
  cases isText : key.asText? with
  | none =>
    rw [isText] at field
    cases field
  | some name =>
    rw [isText] at field
    exact ⟨name, List.contains_iff_mem.1 field, Label.eq_ofText_of_asText? isText⟩

/-- The name of a setting is the same label as none that no setting has. -/
theorem SettingsKind.beq_eq_false {kind : SettingsKind} {key other : Label}
    (field : kind.hasField key = true) (unknown : kind.hasField other = false) :
    (key == other) = false := by
  obtain ⟨name, -, rfl⟩ := exists_of_hasField field
  rw [Bool.eq_false_iff]
  intro same
  rw [(Label.beq_ofText_iff other name).1 (BEq.symm same), field] at unknown
  cases unknown

/-! ## The settings by name -/

namespace GoSettings

/-- A common setting that was stored is found as it was read. -/
theorem map_stored {β : Type} {settings : GoSettings} {put : β → Settings} {get : GoSettings → β}
    (found : ∀ value, get { settings with toSettings := put value } = value) (read : Option β) :
    ((read.map put).map fun common => { settings with toSettings := common }).map get = read := by
  rw [Option.map_map, Option.map_map]
  exact (Option.map_congr fun value _ => found value).trans Option.map_id'

/-- What is stored for a name is what was read. -/
abbrev Stores {β : Type} (name : String) (get : GoSettings → β) (read : Json → Option β) : Prop :=
  ∀ (settings : GoSettings) (value : Json), (settings.set? name value).map get = read value

/-- What is stored for a name is left alone where another setting is set. -/
abbrev Keeps {β : Type} (name : String) (get : GoSettings → β) : Prop :=
  ∀ {before after : GoSettings} {other : String}, AgreeBut other before after → other ≠ name →
    get after = get before

/-- A setting: where it is held, what is read as it, and what it is written as. -/
structure Setting (β : Type) where
  /-- The name by which it is set. -/
  name : String
  /-- What settings hold for it. -/
  get : GoSettings → β
  /-- What a value is read as. -/
  read : Json → Option β
  /-- What it is written as. -/
  give : β → Json
  /-- Setting it stores what was read. -/
  stored : Stores name get read
  /-- Setting another one leaves it alone. -/
  kept : Keeps name get
  /-- It has the name of a setting. -/
  known : SettingsKind.go.hasField (.ofText name) = true := by decide

namespace Setting

section Families

variable (name : String)

/-- A setting that keeps any value as a label. -/
def label (get : GoSettings → Label) (stored : Stores name get fun value => some ⟨value⟩)
    (kept : Keeps name get)
    (known : SettingsKind.go.hasField (.ofText name) = true := by decide) : Setting Label where
  name
  get
  read value := some ⟨value⟩
  give := Label.given
  stored
  kept
  known

/-- A setting that keeps any value as a switch. -/
def switch (get : GoSettings → Switch) (stored : Stores name get fun value => some ⟨value⟩)
    (kept : Keeps name get)
    (known : SettingsKind.go.hasField (.ofText name) = true := by decide) : Setting Switch where
  name
  get
  read value := some ⟨value⟩
  give := Switch.given
  stored
  kept
  known

/-- A setting that is a table of labels. -/
def labelTable (get : GoSettings → Table Label Label)
    (stored : Stores name get Json.labelTable?) (kept : Keeps name get)
    (known : SettingsKind.go.hasField (.ofText name) = true := by decide) :
    Setting (Table Label Label) where
  name
  get
  read := Json.labelTable?
  give := Json.ofLabelTable
  stored
  kept
  known

end Families

/-- What is put before model names. -/
def modelNamePrefix : Setting Label :=
  label "model_name_prefix" (·.modelNamePrefix) (fun _ _ => rfl)
    (fun agree => agree.common.modelNamePrefix)

/-- What is put after model names. -/
def modelNameSuffix : Setting Label :=
  label "model_name_suffix" (·.modelNameSuffix) (fun _ _ => rfl)
    (fun agree => agree.common.modelNameSuffix)

/-- The package of the models. -/
def modelPackage : Setting Label :=
  label "model_package" (·.modelPackage) (fun _ _ => rfl) (fun agree => agree.common.modelPackage)

/-- Overrides of field names. -/
def nameMapping : Setting (Table Label Label) :=
  labelTable "name_mapping" (·.nameMapping)
    (fun _ value => map_stored (fun _ => rfl) value.labelTable?)
    (fun agree => agree.common.nameMapping)

/-- Overrides of parameter names. -/
def parameterNameMapping : Setting (Table Label Label) :=
  labelTable "parameter_name_mapping" (·.parameterNameMapping)
    (fun _ value => map_stored (fun _ => rfl) value.labelTable?)
    (fun agree => agree.common.parameterNameMapping)

/-- Overrides of model names. -/
def modelNameMapping : Setting (Table Label Label) :=
  labelTable "model_name_mapping" (·.modelNameMapping)
    (fun _ value => map_stored (fun _ => rfl) value.labelTable?)
    (fun agree => agree.common.modelNameMapping)

/-- Overrides of enumeration names. -/
def enumNameMapping : Setting (Table Label Label) :=
  labelTable "enum_name_mapping" (·.enumNameMapping)
    (fun _ value => map_stored (fun _ => rfl) value.labelTable?)
    (fun agree => agree.common.enumNameMapping)

/-- Replacements of reserved words. -/
def reservedWordsMapping : Setting (Table Label Label) :=
  labelTable "reserved_words_mapping" (·.reservedWordsMapping)
    (fun _ value => map_stored (fun _ => rfl) value.labelTable?)
    (fun agree => agree.common.reservedWordsMapping)

/-- Further reserved words. -/
def extraReservedWords : Setting (List Label) where
  name := "extra_reserved_words"
  get settings := settings.extraReservedWords
  read := Json.words?
  give := Json.ofLabels
  stored _ value := map_stored (fun _ => rfl) value.words?
  kept agree := agree.common.extraReservedWords

/-- Overrides of types. -/
def typeMapping : Setting (Table Label Label) :=
  labelTable "type_mapping" (·.typeMapping)
    (fun _ value => map_stored (fun _ => rfl) value.labelTable?)
    (fun agree => agree.common.typeMapping)

/-- Replacements of import paths. -/
def importMapping : Setting (Table Label (List Label)) where
  name := "import_mapping"
  get settings := settings.importMapping
  read := Json.table? Json.paths?
  give table := Json.ofTable (table.map Json.ofLabels)
  stored _ value := map_stored (fun _ => rfl) (value.table? Json.paths?)
  kept agree := agree.common.importMapping

/-- The command that formats files. -/
def postProcessCommand : Setting Label :=
  label "post_process_command" (·.postProcessCommand) (fun _ _ => rfl)
    (fun agree => agree.common.postProcessCommand)

/-- The name of the generated package. -/
def packageName : Setting Label :=
  label "package_name" (·.packageName) (fun _ _ => rfl) (fun agree => agree.packageName)

/-- The package of the interface files. -/
def apiPackage : Setting Label :=
  label "api_package" (·.apiPackage) (fun _ _ => rfl) (fun agree => agree.apiPackage)

/-- Whether tags have an `xml` directive. -/
def withXml : Setting Switch :=
  switch "with_xml" (·.withXml) (fun _ _ => rfl) (fun agree => agree.withXml)

/-- Whether tags have a `validate` directive. -/
def withValidate : Setting Switch :=
  switch "with_validate" (·.withValidate) (fun _ _ => rfl) (fun agree => agree.withValidate)

/-- Whether models get a marshaling helper. -/
def generateMarshalJson : Setting Switch :=
  switch "generate_marshal_json" (·.generateMarshalJson) (fun _ _ => rfl)
    (fun agree => agree.generateMarshalJson)

/-- Whether models get an unmarshaling helper. -/
def generateUnmarshalJson : Setting Switch :=
  switch "generate_unmarshal_json" (·.generateUnmarshalJson) (fun _ _ => rfl)
    (fun agree => agree.generateUnmarshalJson)

/-- Whether enumerations import `fmt`. -/
def enumFmtImport : Setting Switch :=
  switch "enum_fmt_import" (·.enumFmtImport) (fun _ _ => rfl) (fun agree => agree.enumFmtImport)

/-- Whether constants have the name of their enumeration before them. -/
def enumClassPrefix : Setting Switch :=
  switch "enum_class_prefix" (·.enumClassPrefix) (fun _ _ => rfl)
    (fun agree => agree.enumClassPrefix)

/-- The custom settings. -/
def custom : Setting (Table Label Json) where
  name := "custom"
  get settings := settings.custom
  read := Json.table? some
  give := Json.ofTable
  stored _ value := map_stored (fun _ => rfl) (value.table? some)
  kept agree := agree.common.custom

/-- All settings other than the custom ones. -/
def named : List (Sigma Setting) :=
  [⟨_, modelNamePrefix⟩, ⟨_, modelNameSuffix⟩, ⟨_, modelPackage⟩,
    ⟨_, nameMapping⟩, ⟨_, parameterNameMapping⟩, ⟨_, modelNameMapping⟩,
    ⟨_, enumNameMapping⟩, ⟨_, reservedWordsMapping⟩, ⟨_, extraReservedWords⟩,
    ⟨_, typeMapping⟩, ⟨_, importMapping⟩, ⟨_, postProcessCommand⟩,
    ⟨_, packageName⟩, ⟨_, apiPackage⟩, ⟨_, withXml⟩,
    ⟨_, withValidate⟩, ⟨_, generateMarshalJson⟩, ⟨_, generateUnmarshalJson⟩,
    ⟨_, enumFmtImport⟩, ⟨_, enumClassPrefix⟩]

/-- What holds of the named settings, each by its own name. -/
structure Each (P : Sigma Setting → Prop) : Prop where
  modelNamePrefix : P ⟨_, Setting.modelNamePrefix⟩
  modelNameSuffix : P ⟨_, Setting.modelNameSuffix⟩
  modelPackage : P ⟨_, Setting.modelPackage⟩
  nameMapping : P ⟨_, Setting.nameMapping⟩
  parameterNameMapping : P ⟨_, Setting.parameterNameMapping⟩
  modelNameMapping : P ⟨_, Setting.modelNameMapping⟩
  enumNameMapping : P ⟨_, Setting.enumNameMapping⟩
  reservedWordsMapping : P ⟨_, Setting.reservedWordsMapping⟩
  extraReservedWords : P ⟨_, Setting.extraReservedWords⟩
  typeMapping : P ⟨_, Setting.typeMapping⟩
  importMapping : P ⟨_, Setting.importMapping⟩
  postProcessCommand : P ⟨_, Setting.postProcessCommand⟩
  packageName : P ⟨_, Setting.packageName⟩
  apiPackage : P ⟨_, Setting.apiPackage⟩
  withXml : P ⟨_, Setting.withXml⟩
  withValidate : P ⟨_, Setting.withValidate⟩
  generateMarshalJson : P ⟨_, Setting.generateMarshalJson⟩
  generateUnmarshalJson : P ⟨_, Setting.generateUnmarshalJson⟩
  enumFmtImport : P ⟨_, Setting.enumFmtImport⟩
  enumClassPrefix : P ⟨_, Setting.enumClassPrefix⟩

/-- What holds of all named settings holds of each. -/
theorem each_of_named {P : Sigma Setting → Prop} (all : ∀ setting ∈ named, P setting) :
    Each P := by
  simp only [named, List.forall_mem_cons] at all
  obtain ⟨modelNamePrefix, modelNameSuffix, modelPackage, nameMapping, parameterNameMapping,
    modelNameMapping, enumNameMapping, reservedWordsMapping, extraReservedWords, typeMapping,
    importMapping, postProcessCommand, packageName, apiPackage, withXml, withValidate,
    generateMarshalJson, generateUnmarshalJson, enumFmtImport, enumClassPrefix, -⟩ := all
  exact ⟨modelNamePrefix, modelNameSuffix, modelPackage, nameMapping, parameterNameMapping,
    modelNameMapping, enumNameMapping, reservedWordsMapping, extraReservedWords, typeMapping,
    importMapping, postProcessCommand, packageName, apiPackage, withXml, withValidate,
    generateMarshalJson, generateUnmarshalJson, enumFmtImport, enumClassPrefix⟩

/-- The names of the settings are those of all named settings and that of the custom ones. -/
theorem exists_mem_named {name : String} (field : name ∈ SettingsKind.go.fieldNames)
    (other : name ≠ custom.name) : ∃ setting ∈ named, setting.2.name = name := by
  have names : named.map (·.2.name) =
      SettingsKind.go.fieldNames.filter (· ≠ custom.name) := rfl
  have there : name ∈ named.map (·.2.name) := by
    rw [names]
    exact List.mem_filter.2 ⟨field, decide_eq_true other⟩
  exact List.mem_map.1 there

/-- All settings but the custom ones are written under their names, in order. -/
theorem named_fields (settings : GoSettings) :
    settings.fields.filter (·.1 ≠ custom.name) =
      named.map fun setting => (setting.2.name, setting.2.give (setting.2.get settings)) := rfl

/-- The custom settings do not touch the named ones. -/
theorem get_custom (settings : GoSettings) (custom : Table Label Json) :
    ∀ setting ∈ named, setting.2.get { settings with custom } = setting.2.get settings := by
  simp only [named, List.forall_mem_cons]
  exact ⟨rfl, rfl, rfl, rfl, rfl, rfl, rfl, rfl, rfl, rfl, rfl, rfl, rfl, rfl, rfl, rfl, rfl, rfl,
    rfl, rfl, List.forall_mem_nil _⟩

end Setting

attribute [ext] GoSettings

/-- Settings that agree in all named settings and in the custom ones are the same. -/
theorem eq_of_named {settings other : GoSettings}
    (same : ∀ setting ∈ Setting.named, setting.2.get settings = setting.2.get other)
    (custom : settings.custom = other.custom) : settings = other := by
  have each := Setting.each_of_named same
  exact GoSettings.ext each.modelNamePrefix each.modelNameSuffix each.modelPackage each.nameMapping
    each.parameterNameMapping each.modelNameMapping each.enumNameMapping each.reservedWordsMapping
    each.extraReservedWords each.typeMapping each.importMapping each.postProcessCommand custom
    each.packageName each.apiPackage each.withXml each.withValidate each.generateMarshalJson
    each.generateUnmarshalJson each.enumFmtImport each.enumClassPrefix

/-! ## Setting one after another -/

/-- What is held for a setting for which a value or nothing was given. -/
def Setting.Given {β : Type} (setting : Setting β) (before after : GoSettings) :
    Option Json → Prop
  | some value => setting.read value = some (setting.get after)
  | none => setting.get after = setting.get before

/-- What is held for a setting follows from what was given for it. -/
theorem Setting.Given.unique {β : Type} {setting : Setting β} {before after other : GoSettings}
    {given : Option Json} (first : setting.Given before after given)
    (second : setting.Given before other given) : setting.get after = setting.get other := by
  cases given with
  | none => exact Eq.trans first (Eq.symm second)
  | some value => exact Option.some.inj (first.symm.trans second)

/-- What is held for a setting matters only where it is looked up. -/
theorem Setting.Given.congr {β : Type} {setting : Setting β} {before after other : GoSettings}
    {given : Option Json} (held : setting.Given before after given)
    (same : setting.get after = setting.get other) : setting.Given before other given := by
  cases given with
  | none => exact same.symm.trans held
  | some value => exact Eq.trans held (congrArg some same)

/-- A setting takes just the values that can be read as it. -/
theorem Setting.isSome_set? {β : Type} (setting : Setting β) (settings : GoSettings)
    (value : Json) : ((AnySettings.go settings).set? (.ofText setting.name) value).isSome =
      (setting.read value).isSome := by
  have step : (AnySettings.go settings).set? (.ofText setting.name) value =
      (settings.set? setting.name value).map .go := rfl
  rw [step, Option.isSome_map, ← Option.isSome_map (f := setting.get), setting.stored]

/-- What members give for a setting, if anything, can be read as the setting. -/
def Setting.Readable {β : Type} (setting : Setting β) (members : Table Label Json) : Prop :=
  ∀ value ∈ members.find? (.ofText setting.name), (setting.read value).isSome = true

/-- What is held for a setting could be read as it. -/
theorem Setting.Given.readable {β : Type} {setting : Setting β} {members : Table Label Json}
    {before after : GoSettings}
    (held : setting.Given before after (members.find? (.ofText setting.name))) :
    setting.Readable members := by
  intro value found
  rw [found] at held
  exact Option.isSome_of_eq_some held

/-- Settings of the Go target are set to settings of the Go target. -/
theorem exists_of_set? {settings : GoSettings} {after : AnySettings} {key : Label} {value : Json}
    (set : (AnySettings.go settings).set? key value = some after) :
    ∃ name next, key = .ofText name ∧ settings.set? name value = some next ∧ after = .go next := by
  obtain ⟨name, isText, named⟩ := Option.bind_eq_some_iff.1 set
  obtain ⟨next, inner, rfl⟩ := Option.map_eq_some_iff.1 named
  exact ⟨name, next, Label.eq_ofText_of_asText? isText, inner, rfl⟩

/-- Settings that were set one after another hold what was given for each. -/
theorem Setting.given_foldlM {β : Type} (setting : Setting β) {members : List (Label × Json)}
    (distinct : (members.map Prod.fst).Pairwise fun a b => (a == b) = false)
    {before after : GoSettings}
    (set : members.foldlM (fun settings (key, value) => settings.set? key value)
      (AnySettings.go before) = some (.go after)) :
    setting.Given before after (findEntry (.ofText setting.name) members) := by
  induction members generalizing before with
  | nil =>
    cases set
    rfl
  | cons member rest ih =>
    obtain ⟨key, value⟩ := member
    obtain ⟨step, first, others⟩ := Option.bind_eq_some_iff.1 set
    obtain ⟨name, next, rfl, inner, rfl⟩ := exists_of_set? first
    rw [List.map_cons, List.pairwise_cons] at distinct
    have later := ih distinct.2 others
    have stored := setting.stored before value
    rw [findEntry, Label.ofText_beq_ofText]
    by_cases same : name = setting.name
    · have absent : findEntry (.ofText setting.name) rest = none :=
        findEntry_eq_none fun entry there =>
          same ▸ BEq.symm_false (distinct.1 entry.1 (List.mem_map_of_mem there))
      rw [absent] at later
      rw [if_pos (beq_iff_eq.2 same)]
      subst same
      rw [inner] at stored
      exact stored.symm.trans (congrArg some (Eq.symm later))
    · rw [if_neg (mt beq_iff_eq.1 same)]
      have kept := setting.kept (GoSettings.agreeBut_of_set? inner) same
      cases found : findEntry (.ofText setting.name) rest with
      | none =>
        rw [found] at later
        exact Eq.trans later kept
      | some given =>
        rw [found] at later
        exact later

/-- Whether a value is taken for a key does not depend on the settings. -/
theorem isSome_set?_go (settings other : GoSettings) (key : Label) (value : Json) :
    ((AnySettings.go settings).set? key value).isSome =
      ((AnySettings.go other).set? key value).isSome := by
  rw [AnySettings.set?, AnySettings.set?]
  cases key.asText? with
  | none => rfl
  | some name =>
    simp only [Option.bind_eq_bind, Option.bind_some, Option.isSome_map]
    exact isSome_set? settings other name value

/-- Settings can be set one after another where each value is taken. -/
theorem exists_of_foldlM {members : List (Label × Json)} (settings : GoSettings)
    (taken : ∀ member ∈ members, ((AnySettings.go settings).set? member.1 member.2).isSome) :
    ∃ after, members.foldlM (fun settings (key, value) => settings.set? key value)
      (AnySettings.go settings) = some (.go after) := by
  induction members generalizing settings with
  | nil => exact ⟨settings, rfl⟩
  | cons member rest ih =>
    obtain ⟨key, value⟩ := member
    obtain ⟨first, later⟩ := List.forall_mem_cons.1 taken
    obtain ⟨step, set⟩ := Option.isSome_iff_exists.1 first
    obtain ⟨name, next, -, -, rfl⟩ := exists_of_set? set
    obtain ⟨after, all⟩ := ih next fun member there =>
      isSome_set?_go next settings member.1 member.2 ▸ later member there
    exact ⟨after, Option.bind_eq_some_iff.2 ⟨.go next, set, all⟩⟩

/-! ## Loading -/

/-- What is set from the members of a table is what they give for each setting. -/
theorem Setting.given_ofFields? {β : Type} (setting : Setting β) {members : Table Label Json}
    {settings : GoSettings}
    (set : AnySettings.ofFields? .go (members.entries.filter (SettingsKind.go.hasField ·.1)) =
      some (.go settings)) :
    setting.Given {} settings (members.find? (.ofText setting.name)) := by
  have found : findEntry (.ofText setting.name)
      (members.entries.filter (SettingsKind.go.hasField ·.1)) =
        members.find? (.ofText setting.name) :=
    findEntry_filter fun entry _ same => by
      rw [(Label.beq_ofText_iff entry.1 setting.name).1 same]
      exact setting.known
  rw [← found]
  exact setting.given_foldlM
    (members.distinct_keys.sublist (List.filter_sublist.map Prod.fst)) set

/-- Members are set where what they give for each setting can be read as it. -/
theorem exists_ofFields?_of_readable {members : Table Label Json}
    (named : ∀ setting ∈ Setting.named, setting.2.Readable members)
    (custom : Setting.custom.Readable members) :
    ∃ settings, AnySettings.ofFields? .go
      (members.entries.filter (SettingsKind.go.hasField ·.1)) = some (.go settings) := by
  refine exists_of_foldlM {} fun ⟨key, value⟩ there => ?_
  obtain ⟨member, field⟩ := List.mem_filter.1 there
  obtain ⟨name, isName, rfl⟩ := SettingsKind.exists_of_hasField field
  have found := Table.find?_of_mem member
  by_cases isCustom : name = Setting.custom.name
  · subst isCustom
    rw [Setting.isSome_set?]
    exact custom value found
  · obtain ⟨setting, isNamed, rfl⟩ := Setting.exists_mem_named isName isCustom
    rw [Setting.isSome_set?]
    exact named setting isNamed value found

/-- Members are set where some settings can hold what is given for each setting. -/
theorem ofFields?_of_given {members : Table Label Json} {settings : GoSettings}
    (named : ∀ setting ∈ Setting.named,
      setting.2.Given {} settings (members.find? (.ofText setting.2.name)))
    (custom : Setting.custom.Given {} settings (members.find? (.ofText Setting.custom.name))) :
    AnySettings.ofFields? .go (members.entries.filter (SettingsKind.go.hasField ·.1)) =
      some (.go settings) := by
  obtain ⟨set, known⟩ := exists_ofFields?_of_readable
    (fun setting member => (named setting member).readable) custom.readable
  have same : set = settings := eq_of_named
    (fun setting member => (setting.2.given_ofFields? known).unique (named setting member))
    ((Setting.custom.given_ofFields? known).unique custom)
  rw [← same]
  exact known

/-- Loaded settings hold what was given for each setting, and all members that no setting is named
for go to the custom ones. -/
theorem ofTable_eq_ok_iff {members : Table Label Json} {settings : GoSettings} :
    AnySettings.ofTable .go members = .ok (.go settings) ↔
      (∀ setting ∈ Setting.named,
        setting.2.Given {} settings (members.find? (.ofText setting.2.name))) ∧
      ∃ given, Setting.custom.Given {} { settings with custom := given }
          (members.find? (.ofText Setting.custom.name)) ∧
        settings.custom = given.insertMany
          (members.entries.filter fun member => !SettingsKind.go.hasField member.1) := by
  rw [AnySettings.ofTable, List.partition_eq_filter_filter]
  dsimp only
  constructor
  · intro loaded
    split at loaded
    · rename_i set known
      cases set with
      | common held => cases loaded
      | go held =>
        cases loaded
        exact ⟨fun setting member => (setting.2.given_ofFields? known).congr
          (Setting.get_custom held _ setting member).symm,
          held.custom, Setting.custom.given_ofFields? known, rfl⟩
    · cases loaded
  · rintro ⟨held, given, custom, whole⟩
    have set : AnySettings.ofFields? .go (members.entries.filter (SettingsKind.go.hasField ·.1)) =
        some (.go { settings with custom := given }) :=
      ofFields?_of_given (fun setting member => (held setting member).congr
        (Setting.get_custom settings given setting member).symm) custom
    rw [set]
    exact congrArg (fun custom => Except.ok (AnySettings.go { settings with custom })) whole.symm

end GoSettings

/-- The standard catalog has the defaults of the Go target. -/
theorem find?_standard :
    Catalog.standard.entries.find? (Text.lower "go") = some ⟨.go, Catalog.goDefaults⟩ :=
  (Table.find?_insert _ _ _ _).trans (if_pos BEq.rfl)

/-- The defaults of the Go target give no custom settings. -/
theorem default_custom :
    Catalog.goDefaults.find? (.ofText GoSettings.Setting.custom.name) = none := by
  decide

/-- The defaults of the Go target have the names of settings. -/
theorem hasField_goDefaults :
    ∀ key ∈ Catalog.goDefaults.keys, SettingsKind.go.hasField key = true := by
  decide

/-- The members of an object are read from a JSON file. -/
theorem read_of_parse (path : String) {text : String} {members : List (String × Json)}
    (named : Text.lower (FilePath.ofString path).extension = ".json")
    (parsed : Json.parse text = some (.object members)) :
    SettingsFile.read ⟨path, .text text⟩ =
      .ok (Table.ofList (members.map fun (name, value) => (.ofText name, value))) := by
  simp only [SettingsFile.read, reduceCtorEq, ↓reduceIte, named, ne_eq, not_true_eq_false, parsed]

/-- What is loaded for Go from a file goes over the defaults and under the overrides. -/
theorem get_go_file (overrides : Table Label Json) (file : SettingsFile) :
    Catalog.standard.get "go" overrides (some file) = file.read.bind fun members =>
      AnySettings.ofTable .go ((Catalog.goDefaults.update members).update overrides) := by
  rw [Catalog.get, find?_standard]
  cases read : file.read with
  | error error =>
    simp only [Catalog.values, read]
    rfl
  | ok members =>
    simp only [Catalog.values, read]
    rfl

end GoBindings
