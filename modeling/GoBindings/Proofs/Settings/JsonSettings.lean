import GoBindings.Proofs.Settings.Loading

/-!
# Settings of JSON values

Settings that are loaded from values of JSON hold values of JSON only, in the keys of their tables
too, and such settings are written readably.
-/

namespace GoBindings

/-! ## What settings hold -/

/-- The labels that stand alone among the common settings. -/
def Settings.labels (settings : Settings) : List Label :=
  [settings.modelNamePrefix, settings.modelNameSuffix, settings.modelPackage,
    settings.postProcessCommand]

/-- The tables of labels among the common settings. -/
def Settings.labelTables (settings : Settings) : List (Table Label Label) :=
  [settings.nameMapping, settings.parameterNameMapping, settings.modelNameMapping,
    settings.enumNameMapping, settings.reservedWordsMapping, settings.typeMapping]

/-- The values of the settings that only the Go target has. -/
def GoSettings.ownValues (settings : GoSettings) : List Json :=
  [settings.packageName.given, settings.apiPackage.given, settings.withXml.given,
    settings.withValidate.given, settings.generateMarshalJson.given,
    settings.generateUnmarshalJson.given, settings.enumFmtImport.given,
    settings.enumClassPrefix.given]

/-- The keys of all tables of the common settings. -/
def Settings.tableKeys (settings : Settings) : List Label :=
  settings.labelTables.flatMap Table.keys ++ settings.importMapping.keys ++ settings.custom.keys

/-- A table of JSON values under JSON values. -/
def Table.HoldsJson (table : Table Label Json) : Prop :=
  (∀ key ∈ table.keys, key.given.IsValue) ∧ ∀ value ∈ table.values, value.IsValue

/-- A table of values with a property under JSON values. -/
def Table.Holds {α : Type} (P : α → Prop) (table : Table Label α) : Prop :=
  (∀ key ∈ table.keys, key.given.IsValue) ∧ ∀ value ∈ table.values, P value

/-- Settings that hold values of JSON only, in the keys of their tables too. -/
structure GoSettings.HoldJson (settings : GoSettings) : Prop where
  /-- Labels that stand alone. -/
  labels : ∀ label ∈ settings.labels, label.given.IsValue
  /-- Labels in tables. -/
  labelTables : ∀ table ∈ settings.labelTables, ∀ value ∈ table.values, value.given.IsValue
  /-- Reserved words. -/
  words : ∀ word ∈ settings.extraReservedWords, word.given.IsValue
  /-- Replacements of import paths. -/
  imports : ∀ paths ∈ settings.importMapping.values, ∀ path ∈ paths, path.given.IsValue
  /-- Custom settings. -/
  custom : ∀ value ∈ settings.custom.values, value.IsValue
  /-- Keys of tables. -/
  keys : ∀ key ∈ settings.tableKeys, key.given.IsValue
  /-- Settings of the Go target. -/
  own : ∀ value ∈ settings.ownValues, value.IsValue

/-! ## Reading JSON values -/

/-- The table without entries holds nothing else. -/
theorem Table.holds_empty {α : Type} (P : α → Prop) : (Table.empty : Table Label α).Holds P :=
  ⟨List.forall_mem_nil _, List.forall_mem_nil _⟩

/-- What a traversal gives it gives for some item. -/
theorem exists_of_mapM {α β : Type} {f : α → Option β} {items : List α} {results : List β}
    (all : items.mapM f = some results) {result : β} (there : result ∈ results) :
    ∃ item ∈ items, f item = some result := by
  induction items generalizing results with
  | nil =>
    cases all
    cases there
  | cons item rest ih =>
    rw [List.mapM_cons] at all
    obtain ⟨first, known, others⟩ := Option.bind_eq_some_iff.1 all
    obtain ⟨later, each, last⟩ := Option.bind_eq_some_iff.1 others
    cases last
    rcases List.mem_cons.1 there with rfl | behind
    · exact ⟨item, List.mem_cons_self, known⟩
    · obtain ⟨other, member, given⟩ := ih each behind
      exact ⟨other, List.mem_cons_of_mem _ member, given⟩

namespace Json.IsValue

/-- A key that is read from a JSON value is one. -/
theorem of_key? {value : Json} (json : value.IsValue) {key : Label} (read : value.key? = some key) :
    key.given.IsValue := by
  cases value with
  | array items => cases read
  | object members => cases read
  | _ =>
    cases read
    exact json

/-- Both parts of a pair that is read from a JSON value are JSON values. -/
theorem of_pair? {value : Json} (json : value.IsValue) {pair : Label × Json}
    (paired : value.pair? = some pair) : pair.1.given.IsValue ∧ pair.2.IsValue := by
  rw [Json.pair?.eq_def] at paired
  split at paired
  · rename_i key value
    obtain ⟨label, isKey, rfl⟩ := Option.map_eq_some_iff.1 paired
    cases json with
    | array all =>
      exact ⟨(all key List.mem_cons_self).of_key? isKey,
        all value (List.mem_cons_of_mem _ List.mem_cons_self)⟩
  · split at paired
    · cases paired
      exact ⟨.string _, .string _⟩
    · cases paired
  · cases paired
    exact ⟨.string _, .string _⟩
  · cases paired

/-- The members that are read from a JSON value are JSON values under JSON values. -/
theorem of_members? {value : Json} (json : value.IsValue) {members : List (Label × Json)}
    (read : value.members? = some members) :
    ∀ member ∈ members, member.1.given.IsValue ∧ member.2.IsValue := by
  intro member there
  cases json with
  | object distinct all =>
    cases read
    obtain ⟨pair, given, rfl⟩ := List.mem_map.1 there
    exact ⟨.string _, all pair given⟩
  | array all =>
    obtain ⟨item, given, paired⟩ := exists_of_mapM read there
    exact (all item given).of_pair? paired
  | _ => cases read

/-- A table that is read from a JSON value has what is read from JSON values under JSON values. -/
theorem of_table? {α : Type} {P : α → Prop} {read : Json → Option α}
    (each : ∀ {value : Json}, value.IsValue → ∀ {result : α}, read value = some result → P result)
    {value : Json} (json : value.IsValue) {table : Table Label α}
    (given : value.table? read = some table) : table.Holds P := by
  rw [Json.table?] at given
  split at given
  · cases given
    exact Table.holds_empty P
  · obtain ⟨members, isMembers, entered⟩ := Option.bind_eq_some_iff.1 given
    obtain ⟨entries, all, last⟩ := Option.bind_eq_some_iff.1 entered
    cases last
    have inner : ∀ entry ∈ entries, entry.1.given.IsValue ∧ P entry.2 := by
      intro entry there
      obtain ⟨⟨key, part⟩, member, known⟩ := exists_of_mapM all there
      obtain ⟨result, isResult, rfl⟩ := Option.map_eq_some_iff.1 known
      have parts := json.of_members? isMembers
      obtain ⟨pair, isPair, rfl⟩ := List.mem_map.1
        ((Table.mem_keys_insertMany (List.mem_map_of_mem member)).resolve_left List.not_mem_nil)
      obtain ⟨other, isOther, rfl⟩ := List.mem_map.1
        ((Table.mem_values_insertMany (List.mem_map_of_mem member)).resolve_left List.not_mem_nil)
      exact ⟨(parts pair isPair).1, each (parts other isOther).2 isResult⟩
    constructor
    · intro key there
      obtain ⟨entry, member, rfl⟩ := List.mem_map.1
        ((Table.mem_keys_insertMany there).resolve_left List.not_mem_nil)
      exact (inner entry member).1
    · intro result there
      obtain ⟨entry, member, rfl⟩ := List.mem_map.1
        ((Table.mem_values_insertMany there).resolve_left List.not_mem_nil)
      exact (inner entry member).2

/-- A table of labels that is read from a JSON value holds JSON values. -/
theorem of_labelTable? {value : Json} (json : value.IsValue) {table : Table Label Label}
    (given : value.labelTable? = some table) : table.Holds fun label => label.given.IsValue :=
  json.of_table? (P := fun label : Label => label.given.IsValue)
    (fun inner _ same => by cases same; exact inner) given

/-- The labels that a JSON value stands for are JSON values where those of texts are. -/
theorem of_labels? {ofText : String → List Label}
    (texts : ∀ text, ∀ label ∈ ofText text, label.given.IsValue) {value : Json}
    (json : value.IsValue) {labels : List Label} (given : value.labels? ofText = some labels) :
    ∀ label ∈ labels, label.given.IsValue := by
  cases json with
  | string text =>
    cases given
    exact texts text
  | array all =>
    cases given
    intro label there
    obtain ⟨item, member, rfl⟩ := List.mem_map.1 there
    exact all item member
  | object distinct all =>
    cases given
    intro label there
    obtain ⟨member, -, rfl⟩ := List.mem_map.1 there
    exact .string _
  | _ => cases given

/-- The replacements of an import path that are read from a JSON value are JSON values. -/
theorem of_paths? {value : Json} (json : value.IsValue) {paths : List Label}
    (given : value.paths? = some paths) : ∀ path ∈ paths, path.given.IsValue :=
  json.of_labels? (fun text _ there => List.mem_singleton.1 there ▸ .string text) given

/-- Words that are read from a JSON value are JSON values. -/
theorem of_words? {value : Json} (json : value.IsValue) {words : List Label}
    (given : value.words? = some words) : ∀ word ∈ words, word.given.IsValue := by
  rw [Json.words?] at given
  split at given
  · cases given
    exact List.forall_mem_nil _
  · refine json.of_labels? (fun text label there => ?_) given
    obtain ⟨c, -, rfl⟩ := List.mem_map.1 there
    exact .string _

end Json.IsValue

/-- The table without entries is a table of JSON values. -/
theorem Table.holdsJson_empty : (Table.empty : Table Label Json).HoldsJson :=
  Table.holds_empty Json.IsValue

/-- JSON values that are entered in a table of JSON values leave it one. -/
theorem Table.HoldsJson.insertMany {table : Table Label Json} (holds : table.HoldsJson)
    {members : List (Label × Json)}
    (json : ∀ member ∈ members, member.1.given.IsValue ∧ member.2.IsValue) :
    (table.insertMany members).HoldsJson := by
  constructor
  · intro key there
    rcases Table.mem_keys_insertMany there with old | new
    · exact holds.1 key old
    · obtain ⟨member, entered, rfl⟩ := List.mem_map.1 new
      exact (json member entered).1
  · intro value there
    rcases Table.mem_values_insertMany there with old | new
    · exact holds.2 value old
    · obtain ⟨member, entered, rfl⟩ := List.mem_map.1 new
      exact (json member entered).2

/-- A table of pairs of JSON values is a table of JSON values. -/
theorem Table.holdsJson_ofList {members : List (Label × Json)}
    (json : ∀ member ∈ members, member.1.given.IsValue ∧ member.2.IsValue) :
    (Table.ofList members).HoldsJson :=
  Table.holdsJson_empty.insertMany json

/-- The entries of a table of JSON values are JSON values under JSON values. -/
theorem Table.HoldsJson.of_mem {table : Table Label Json} (holds : table.HoldsJson)
    {member : Label × Json} (there : member ∈ table.entries) :
    member.1.given.IsValue ∧ member.2.IsValue :=
  ⟨holds.1 member.1 (List.mem_map_of_mem there), holds.2 member.2 (List.mem_map_of_mem there)⟩

/-- A table of JSON values that goes over another leaves one. -/
theorem Table.HoldsJson.update {table other : Table Label Json} (holds : table.HoldsJson)
    (also : other.HoldsJson) : (table.update other).HoldsJson :=
  holds.insertMany fun _ there => also.of_mem there

/-- What a table of JSON values gives for a key is a JSON value. -/
theorem Table.HoldsJson.of_find? {table : Table Label Json} (holds : table.HoldsJson)
    {key : Label} : ∀ value ∈ table.find? key, value.IsValue := by
  intro value found
  obtain ⟨_, there, -⟩ := exists_of_findEntry found
  exact (holds.of_mem there).2

/-! ## Settings given as JSON values -/

namespace GoSettings

namespace Setting.Given

variable {before after : GoSettings} {given : Option Json}

/-- What is held for a setting has a property that the default has and all that is read as it. -/
theorem holds {β : Type} {setting : Setting β} {P : β → Prop}
    (held : setting.Given before after given) (default : P (setting.get before))
    (reads : ∀ value ∈ given, ∀ {result : β}, setting.read value = some result → P result) :
    P (setting.get after) := by
  cases given with
  | none => exact Eq.symm held ▸ default
  | some value => exact reads value rfl held

variable (json : ∀ value ∈ given, value.IsValue)

include json

/-- A label or a switch that was given as a JSON value is one: such a setting keeps any value. -/
theorem holds_plain {β : Type} {setting : Setting β} (held : setting.Given before after given)
    (plain : ∀ value, (setting.read value).map setting.give = some value)
    (default : (setting.give (setting.get before)).IsValue) :
    (setting.give (setting.get after)).IsValue := by
  refine held.holds (P := fun kept => (setting.give kept).IsValue) default
    fun value found kept read => ?_
  have same := plain value
  rw [read] at same
  exact Option.some.inj same ▸ json value found

/-- A table of labels that was given as a JSON value holds JSON values. -/
theorem holds_labelTable {setting : Setting (Table Label Label)}
    (held : setting.Given before after given) (table : setting.read = Json.labelTable?)
    (default : setting.get before = Table.empty) :
    (setting.get after).Holds fun label => label.given.IsValue := by
  refine held.holds (default ▸ Table.holds_empty _) fun value found _ read => ?_
  rw [table] at read
  exact (json value found).of_labelTable? read

/-- Reserved words that were given as a JSON value are JSON values. -/
theorem holds_words (held : extraReservedWords.Given before after given)
    (default : extraReservedWords.get before = []) :
    ∀ word ∈ after.extraReservedWords, word.given.IsValue :=
  held.holds (P := fun words => ∀ word ∈ words, word.given.IsValue)
    (default ▸ List.forall_mem_nil _) fun value found _ read => (json value found).of_words? read

/-- Replacements of import paths that were given as a JSON value are JSON values. -/
theorem holds_imports (held : importMapping.Given before after given)
    (default : importMapping.get before = Table.empty) :
    after.importMapping.Holds fun paths => ∀ path ∈ paths, path.given.IsValue :=
  held.holds (P := Table.Holds fun paths => ∀ path ∈ paths, path.given.IsValue)
    (default ▸ Table.holds_empty _) fun value found _ read =>
      (json value found).of_table? (fun inner _ isPaths => inner.of_paths? isPaths) read

/-- Custom settings that were given as a JSON value are JSON values. -/
theorem holds_custom (held : custom.Given before after given)
    (default : custom.get before = Table.empty) : after.custom.HoldsJson := by
  refine held.holds (P := Table.HoldsJson) (default ▸ Table.holdsJson_empty)
    fun value found _ read => (json value found).of_table? (P := Json.IsValue) ?_ read
  intro inner isValue _ same
  cases same
  exact isValue

end Setting.Given

section Loading

variable {members : Table Label Json} {settings : GoSettings} (holds : members.HoldsJson)
  (each : Setting.Each fun setting =>
    setting.2.Given {} settings (members.find? (.ofText setting.2.name)))

include holds each

/-- The labels that stand alone are JSON values where all that was given is. -/
theorem isValue_labels : ∀ label ∈ settings.labels, label.given.IsValue := by
  simp only [Settings.labels, List.forall_mem_cons]
  exact ⟨each.modelNamePrefix.holds_plain holds.of_find? (fun _ => rfl) (.string ""),
    each.modelNameSuffix.holds_plain holds.of_find? (fun _ => rfl) (.string ""),
    each.modelPackage.holds_plain holds.of_find? (fun _ => rfl) (.string ""),
    each.postProcessCommand.holds_plain holds.of_find? (fun _ => rfl) .null, List.forall_mem_nil _⟩

/-- The tables of labels hold JSON values where all that was given is one. -/
theorem holds_labelTables :
    ∀ table ∈ settings.labelTables, table.Holds fun label => label.given.IsValue := by
  simp only [Settings.labelTables, List.forall_mem_cons]
  exact ⟨each.nameMapping.holds_labelTable holds.of_find? rfl rfl,
    each.parameterNameMapping.holds_labelTable holds.of_find? rfl rfl,
    each.modelNameMapping.holds_labelTable holds.of_find? rfl rfl,
    each.enumNameMapping.holds_labelTable holds.of_find? rfl rfl,
    each.reservedWordsMapping.holds_labelTable holds.of_find? rfl rfl,
    each.typeMapping.holds_labelTable holds.of_find? rfl rfl, List.forall_mem_nil _⟩

/-- The settings of the Go target are JSON values where all that was given is. -/
theorem isValue_ownValues : ∀ value ∈ settings.ownValues, value.IsValue := by
  simp only [ownValues, List.forall_mem_cons]
  exact ⟨each.packageName.holds_plain holds.of_find? (fun _ => rfl) (.string "openapi"),
    each.apiPackage.holds_plain holds.of_find? (fun _ => rfl) (.string ""),
    each.withXml.holds_plain holds.of_find? (fun _ => rfl) (.bool false),
    each.withValidate.holds_plain holds.of_find? (fun _ => rfl) (.bool true),
    each.generateMarshalJson.holds_plain holds.of_find? (fun _ => rfl) (.bool true),
    each.generateUnmarshalJson.holds_plain holds.of_find? (fun _ => rfl) (.bool true),
    each.enumFmtImport.holds_plain holds.of_find? (fun _ => rfl) (.bool false),
    each.enumClassPrefix.holds_plain holds.of_find? (fun _ => rfl) (.bool false),
    List.forall_mem_nil _⟩

end Loading

/-- Settings that are loaded from JSON values hold JSON values. -/
theorem holdJson_of_ofTable {members : Table Label Json} {settings : GoSettings}
    (holds : members.HoldsJson)
    (loaded : AnySettings.ofTable .go members = .ok (.go settings)) : settings.HoldJson := by
  obtain ⟨named, given, customGiven, whole⟩ := ofTable_eq_ok_iff.1 loaded
  have each := Setting.each_of_named named
  have tables := holds_labelTables holds each
  have imports := each.importMapping.holds_imports holds.of_find? rfl
  have custom : settings.custom.HoldsJson := by
    rw [whole]
    exact (customGiven.holds_custom holds.of_find? rfl).insertMany fun member entered =>
      holds.of_mem (List.mem_filter.1 entered).1
  have keys : ∀ key ∈ settings.tableKeys, key.given.IsValue := by
    simp only [Settings.tableKeys, List.forall_mem_append, List.forall_mem_flatMap]
    exact ⟨⟨fun table there => (tables table there).1, imports.1⟩, custom.1⟩
  exact {
    labels := isValue_labels holds each
    labelTables := fun table there => (tables table there).2
    words := each.extraReservedWords.holds_words holds.of_find? rfl
    imports := imports.2
    custom := custom.2
    keys
    own := isValue_ownValues holds each }

end GoSettings

/-- The defaults of the Go target are JSON values. -/
theorem holdsJson_goDefaults : Catalog.goDefaults.HoldsJson := by
  refine Table.holdsJson_ofList ?_
  simp only [List.forall_mem_cons]
  exact ⟨⟨.string _, .string _⟩, ⟨.string _, .bool _⟩, ⟨.string _, .bool _⟩, ⟨.string _, .bool _⟩,
    ⟨.string _, .bool _⟩, ⟨.string _, .bool _⟩, ⟨.string _, .bool _⟩, List.forall_mem_nil _⟩

/-- Settings that are loaded from requests and files of JSON values hold JSON values. -/
theorem GoSettings.holdJson_of_get {overrides : Table Label Json} {file : Option SettingsFile}
    {settings : GoSettings} (requested : overrides.HoldsJson)
    (stored : ∀ source ∈ file, ∀ members, source.read = .ok members → members.HoldsJson)
    (loaded : Catalog.standard.get "go" overrides file = .ok (.go settings)) :
    settings.HoldJson := by
  cases file with
  | none =>
    rw [Catalog.get, find?_standard] at loaded
    exact holdJson_of_ofTable (holdsJson_goDefaults.update requested) loaded
  | some source =>
    rw [get_go_file] at loaded
    cases read : source.read with
    | error error =>
      rw [read] at loaded
      cases loaded
    | ok members =>
      rw [read] at loaded
      exact holdJson_of_ofTable
        ((holdsJson_goDefaults.update (stored source rfl members read)).update requested) loaded

/-! ## Writing JSON values -/

/-- A table is written readably where its values are. -/
theorem isReadable_ofTable {table : Table Label Json}
    (values : ∀ value ∈ table.values, value.IsReadable) : (Json.ofTable table).IsReadable := by
  refine .object fun member there => ?_
  obtain ⟨entry, given, rfl⟩ := List.mem_map.1 there
  exact values entry.2 (List.mem_map_of_mem given)

/-- Labels of JSON values are written readably. -/
theorem isReadable_ofLabels {labels : List Label} (json : ∀ label ∈ labels, label.given.IsValue) :
    (Json.ofLabels labels).IsReadable := by
  refine .array fun item there => ?_
  obtain ⟨label, member, rfl⟩ := List.mem_map.1 there
  exact (json label member).isReadable

/-- A mapped table is written readably where its mapped values are. -/
theorem isReadable_ofTable_map {α : Type} {give : α → Json} {table : Table Label α}
    (values : ∀ value ∈ table.values, (give value).IsReadable) :
    (Json.ofTable (table.map give)).IsReadable := by
  refine isReadable_ofTable fun value there => ?_
  rw [Table.values, Table.entries_map, List.map_map] at there
  obtain ⟨entry, member, rfl⟩ := List.mem_map.1 there
  exact values entry.2 (List.mem_map_of_mem member)

/-- Settings of JSON values are written readably. -/
theorem GoSettings.HoldJson.isReadable_fields {settings : GoSettings} (json : settings.HoldJson) :
    ∀ field ∈ settings.fields, field.2.IsReadable := by
  have label {label : Label} (member : label ∈ settings.labels) : label.given.IsReadable :=
    (json.labels label member).isReadable
  have own {value : Json} (member : value ∈ settings.ownValues) : value.IsReadable :=
    (json.own value member).isReadable
  have table {table : Table Label Label} (member : table ∈ settings.labelTables) :
      (Json.ofLabelTable table).IsReadable :=
    isReadable_ofTable_map fun value there => (json.labelTables table member value there).isReadable
  have imports : (Json.ofTable (settings.importMapping.map .ofLabels)).IsReadable :=
    isReadable_ofTable_map fun paths there => isReadable_ofLabels (json.imports paths there)
  have custom : (Json.ofTable settings.custom).IsReadable :=
    isReadable_ofTable fun value there => (json.custom value there).isReadable
  simp only [GoSettings.fields, Settings.fields, List.forall_mem_append, List.forall_mem_cons]
  exact ⟨⟨label (by simp [Settings.labels]), label (by simp [Settings.labels]),
    label (by simp [Settings.labels]), table (by simp [Settings.labelTables]),
    table (by simp [Settings.labelTables]), table (by simp [Settings.labelTables]),
    table (by simp [Settings.labelTables]), table (by simp [Settings.labelTables]),
    isReadable_ofLabels json.words, table (by simp [Settings.labelTables]), imports,
    label (by simp [Settings.labels]), custom, List.forall_mem_nil _⟩,
    own (by simp [ownValues]), own (by simp [ownValues]), own (by simp [ownValues]),
    own (by simp [ownValues]), own (by simp [ownValues]), own (by simp [ownValues]),
    own (by simp [ownValues]), own (by simp [ownValues]), List.forall_mem_nil _⟩

/-- What is saved of settings of JSON values is written readably. -/
theorem GoSettings.HoldJson.isReadable_savedTable {settings : GoSettings}
    (json : settings.HoldJson) :
    (Json.ofTable (AnySettings.go settings).savedTable).IsReadable := by
  refine isReadable_ofTable fun value there => ?_
  obtain ⟨⟨key, _⟩, member, rfl⟩ := List.mem_map.1 there
  rcases Table.exists_of_find?_insertMany (Table.find?_of_mem member) with ⟨k, given, -⟩ | named
  · exact (json.custom _ (List.mem_map_of_mem given)).isReadable
  · rcases Table.exists_of_find?_insertMany named with ⟨k, given, -⟩ | nothing
    · obtain ⟨⟨name, _⟩, field, same⟩ := List.mem_map.1 given
      cases same
      exact json.isReadable_fields _ (List.mem_filter.1 field).1
    · cases nothing

end GoBindings
