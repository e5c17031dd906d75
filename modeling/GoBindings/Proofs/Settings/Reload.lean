import GoBindings.Proofs.Settings.JsonSettings

/-!
# Saving and loading settings

Settings of JSON values that were saved are loaded as they were just where all keys of their tables
are texts and no custom setting has the name of a setting: keys are saved by their names, and custom
settings stand beside the others in a saved file.
-/

namespace GoBindings

/-! ## The saved file -/

/-- Custom settings that have texts as keys and that no setting is named for. -/
def GoSettings.CustomApart (settings : GoSettings) : Prop :=
  ∀ key ∈ settings.custom.keys, key.asText?.isSome ∧ SettingsKind.go.hasField key = false

/-- The settings that are loaded for Go from a file in which settings were saved. -/
def AnySettings.reload (settings : AnySettings) (path : String) :
    Except SettingsError AnySettings :=
  Catalog.standard.get "go" Table.empty (some ⟨path, .text settings.savedText⟩)

/-- The members of a saved file as they are read. -/
def AnySettings.readMembers (settings : AnySettings) : Table Label Json :=
  (settings.savedTable.map Json.merged).retold

/-- Saved settings are loaded from the members of the file over the defaults. -/
theorem reload_eq {settings : AnySettings}
    (readable : (Json.ofTable settings.savedTable).IsReadable) {path : String}
    (named : Text.lower (FilePath.ofString path).extension = ".json") :
    settings.reload path =
      AnySettings.ofTable .go (Catalog.goDefaults.update settings.readMembers) := by
  have text : Json.parse settings.savedText =
      some (.object (settings.savedTable.map Json.merged).named.entries) := by
    rw [AnySettings.savedText, Json.parse_pretty readable, Json.merged_ofTable]
  rw [AnySettings.reload, get_go_file, read_of_parse path named text]
  rfl

/-- Settings are loaded from files with the extension of JSON files only. -/
theorem extension_of_reload {settings loaded : AnySettings} {path : String}
    (same : settings.reload path = .ok loaded) :
    Text.lower (FilePath.ofString path).extension = ".json" := by
  rw [AnySettings.reload, get_go_file, SettingsFile.read] at same
  by_cases named : Text.lower (FilePath.ofString path).extension = ".json"
  · exact named
  · simp only [reduceCtorEq, ↓reduceIte, ne_eq, named, not_false_eq_true] at same
    cases same

/-! ## Custom settings -/

/-- The value of a pair is a text or smaller than the pair. -/
theorem Json.text_or_lt_of_pair? {item : Json} {pair : Label × Json}
    (paired : item.pair? = some pair) :
    (∃ text, pair.2 = .string text) ∨ sizeOf pair.2 < sizeOf item := by
  rw [Json.pair?.eq_def] at paired
  split at paired
  · rename_i key value
    obtain ⟨label, -, rfl⟩ := Option.map_eq_some_iff.1 paired
    right
    simp
    omega
  · split at paired
    · cases paired
      exact .inl ⟨_, rfl⟩
    · cases paired
  · cases paired
    exact .inl ⟨_, rfl⟩
  · cases paired

/-- A value is none of the members that are read from it. -/
theorem Json.ne_of_members? {value : Json} {members : List (Label × Json)}
    (read : value.members? = some members) {member : Label × Json} (there : member ∈ members) :
    member.2 ≠ value := by
  cases value with
  | object inner =>
    cases read
    obtain ⟨⟨name, part⟩, given, rfl⟩ := List.mem_map.1 there
    intro (same : part = .object inner)
    have inside := List.sizeOf_lt_of_mem given
    rw [same] at inside
    simp at inside
    omega
  | array items =>
    obtain ⟨item, given, paired⟩ := exists_of_mapM read there
    rcases text_or_lt_of_pair? paired with ⟨text, isText⟩ | smaller
    · rw [isText]
      exact nofun
    · intro same
      have inside := List.sizeOf_lt_of_mem given
      rw [same] at smaller
      simp at smaller
      omega
  | _ => cases read

/-- No value is found in the table that is read from it. -/
theorem Json.ne_of_table? {value : Json} {table : Table Label Json}
    (read : value.table? some = some table) {key : Label} {inner : Json}
    (found : table.find? key = some inner) : inner ≠ value := by
  rw [Json.table?] at read
  split at read
  · cases read
    cases found
  · obtain ⟨members, given, entered⟩ := Option.bind_eq_some_iff.1 read
    obtain ⟨entries, each, last⟩ := Option.bind_eq_some_iff.1 entered
    cases last
    cases (List.mapM_pure.symm.trans each : some _ = some entries)
    rw [List.map_id', Table.ofList_entries] at found
    rcases Table.exists_of_find?_insertMany found with ⟨k, there, -⟩ | nothing
    · exact ne_of_members? given there
    · cases nothing

/-- A key with a name that is no value of JSON is the text of that name: any other key is named as
it is written, and that could be read. -/
theorem Label.eq_ofText_of_memberName {key : Label} (json : key.given.IsValue) {name : String}
    (named : key.memberName = name) (noValue : Json.parse name = none) : key = .ofText name := by
  obtain ⟨given⟩ := key
  cases given with
  | string text => exact congrArg Label.ofText named
  | array items =>
    have read : Json.parse "[]" = some (.array []) := by decide
    subst named
    exact absurd (read.symm.trans noValue) nofun
  | object members =>
    have read : Json.parse "\x7b\x7d" = some (.object []) := by decide
    subst named
    exact absurd (read.symm.trans noValue) nofun
  | _ =>
    have read := Json.parse_pretty json.isReadable
    subst named
    exact absurd (read.symm.trans noValue) nofun

/-- A saved file has under the name of the custom settings just the custom setting of that name. -/
theorem GoSettings.HoldJson.find?_custom {settings : GoSettings} (json : settings.HoldJson)
    {value : Json}
    (found : (AnySettings.go settings).readMembers.find? (.ofText "custom") = some value) :
    settings.custom.find? (.ofText "custom") = some value := by
  obtain ⟨key, there, named⟩ := Table.exists_of_find?_retold found
  obtain ⟨⟨_, saved⟩, member, same⟩ := List.mem_map.1 there
  cases same
  have custom : key = .ofText "custom" := by
    rcases Table.mem_keys_insertMany (List.mem_map_of_mem member) with other | own
    · obtain ⟨pair, field, rfl⟩ :=
        List.mem_map.1 ((Table.mem_keys_insertMany other).resolve_left List.not_mem_nil)
      obtain ⟨⟨name, given⟩, -, rfl⟩ := List.mem_map.1 field
      exact congrArg Label.ofText named
    · have isKey : key ∈ settings.tableKeys := List.mem_append_right _ own
      exact Label.eq_ofText_of_memberName (json.keys key isKey) named (by decide)
  rw [custom] at member
  rcases Table.exists_of_find?_insertMany (Table.find?_of_mem member) with
    ⟨k, given, alike⟩ | given
  · rw [(Label.beq_ofText_iff k "custom").1 alike] at given
    rw [(json.custom saved (List.mem_map_of_mem given)).merged_eq]
    exact Table.find?_of_mem given
  · rcases Table.exists_of_find?_insertMany given with ⟨k, field, alike⟩ | nothing
    · obtain ⟨⟨name, _⟩, remaining, same⟩ := List.mem_map.1 field
      cases same
      rw [Label.ofText_beq_ofText, beq_iff_eq] at alike
      have other : name ≠ "custom" := of_decide_eq_true (List.mem_filter.1 remaining).2
      exact absurd alike other
    · cases nothing

/-- Settings that are loaded as they were saved have custom settings only of names that no setting
has. One that is named `custom` would be read as a table that holds it. -/
theorem GoSettings.HoldJson.customApart_of_reload {settings : GoSettings} (json : settings.HoldJson)
    {path : String} (named : Text.lower (FilePath.ofString path).extension = ".json")
    (same : (AnySettings.go settings).reload path = .ok (.go settings)) :
    settings.CustomApart := by
  rw [reload_eq json.isReadable_savedTable named] at same
  obtain ⟨-, given, read, custom⟩ := GoSettings.ofTable_eq_ok_iff.1 same
  have nothing : given = Table.empty := by
    rw [Table.find?_update, default_custom, Option.or_none] at read
    cases found : (AnySettings.go settings).readMembers.find? (.ofText Setting.custom.name) with
    | none =>
      rw [found] at read
      exact read
    | some value =>
      rw [found] at read
      have inside := json.find?_custom found
      rw [custom, Table.find?_insertMany_of_absent] at inside
      · exact absurd rfl (Json.ne_of_table? read inside)
      · exact fun pair there => BEq.symm_false (SettingsKind.beq_eq_false Setting.custom.known
          (Bool.not_eq_true' _ ▸ (List.mem_filter.1 there).2))
  intro key there
  rw [custom, nothing] at there
  have entered := (Table.mem_keys_insertMany there).resolve_left List.not_mem_nil
  obtain ⟨pair, member, rfl⟩ := List.mem_map.1 entered
  obtain ⟨loaded, unknown⟩ := List.mem_filter.1 member
  refine ⟨?_, by simpa using unknown⟩
  rcases Table.mem_keys_insertMany (List.mem_map_of_mem loaded) with default | saved
  · have texts : ∀ key ∈ Catalog.goDefaults.keys, key.asText?.isSome := by decide
    exact texts _ default
  · rw [AnySettings.readMembers, Table.entries_retold, List.map_map] at saved
    obtain ⟨entry, -, same⟩ := List.mem_map.1 saved
    rw [← same]
    rfl

/-! ## Named settings -/

/-- The settings other than the custom ones as members of a saved file. -/
def GoSettings.namedMembers (settings : GoSettings) : List (Label × Json) :=
  Setting.named.map fun setting =>
    (.ofText setting.2.name, setting.2.give (setting.2.get settings))

/-- The names of the settings are different labels. -/
theorem GoSettings.distinct_namedMembers (settings : GoSettings) :
    (settings.namedMembers.map Prod.fst).Pairwise fun a b => (a == b) = false := by
  have names : (Setting.named.map fun setting => setting.2.name).Nodup := by decide +kernel
  rw [namedMembers, List.map_map, List.pairwise_map]
  rw [List.Nodup, List.pairwise_map] at names
  exact names.imp fun apart => (Label.ofText_beq_ofText _ _).trans (beq_eq_false_iff_ne.2 apart)

/-- The settings have the names of settings. -/
theorem GoSettings.hasField_of_namedMembers {settings : GoSettings} {member : Label × Json}
    (there : member ∈ settings.namedMembers) : SettingsKind.go.hasField member.1 = true := by
  obtain ⟨setting, -, rfl⟩ := List.mem_map.1 there
  exact setting.2.known

/-- Custom settings of names that no setting has are saved after all others. -/
theorem GoSettings.entries_savedTable {settings : GoSettings}
    (fresh : ∀ key ∈ settings.custom.keys, SettingsKind.go.hasField key = false) :
    (AnySettings.go settings).savedTable.entries =
      settings.namedMembers ++ settings.custom.entries := by
  have members : (settings.fields.filter (·.1 ≠ Setting.custom.name)).map
      (fun field => (Label.ofText field.1, field.2)) = settings.namedMembers := by
    rw [Setting.named_fields, List.map_map]
    rfl
  have named : (AnySettings.go settings).savedTable =
      (Table.ofList settings.namedMembers).update settings.custom := by
    rw [← members]
    rfl
  have distinct := settings.distinct_namedMembers
  rw [named, Table.update, Table.entries_insertMany, Table.entries_ofList distinct]
  rw [Table.keys, Table.entries_ofList distinct]
  refine List.pairwise_append.2 ⟨distinct, settings.custom.distinct_keys, ?_⟩
  intro label there key member
  obtain ⟨pair, isNamed, rfl⟩ := List.mem_map.1 there
  exact SettingsKind.beq_eq_false (hasField_of_namedMembers isNamed) (fresh key member)

/-- What a saved file is read as: the settings, and then the custom ones. -/
theorem GoSettings.HoldJson.entries_saved {settings : GoSettings} (json : settings.HoldJson)
    (apart : settings.CustomApart) :
    (AnySettings.go settings).readMembers.entries =
      (settings.namedMembers.map fun member => (member.1, member.2.merged)) ++
        settings.custom.entries := by
  have entries := GoSettings.entries_savedTable fun key there => (apart key there).2
  have texts : ∀ key ∈ ((AnySettings.go settings).savedTable.map Json.merged).keys,
      key.asText?.isSome := by
    intro key there
    rw [Table.keys, Table.entries_map, entries, List.map_map, List.map_append] at there
    rcases List.mem_append.1 there with named | custom
    · obtain ⟨member, isNamed, rfl⟩ := List.mem_map.1 named
      obtain ⟨setting, -, rfl⟩ := List.mem_map.1 isNamed
      rfl
    · exact (apart key custom).1
  have custom : settings.custom.entries.map (fun member => (member.1, member.2.merged)) =
      settings.custom.entries := by
    rw [List.map_congr_left fun member there => by
      rw [(json.custom member.2 (List.mem_map_of_mem there)).merged_eq], List.map_id']
  rw [AnySettings.readMembers, Table.retold_eq_iff.2 texts, Table.entries_map, entries,
    List.map_append, custom]

/-- Of the members that are loaded from a saved file no setting is named for the custom settings. -/
theorem GoSettings.HoldJson.others_saved {settings : GoSettings} (json : settings.HoldJson)
    (apart : settings.CustomApart) :
    (Catalog.goDefaults.update (AnySettings.go settings).readMembers).entries.filter
      (fun member => !SettingsKind.go.hasField member.1) = settings.custom.entries := by
  obtain ⟨start, isStart⟩ : ∃ start, start = Catalog.goDefaults.insertMany
      (settings.namedMembers.map fun member => (member.1, member.2.merged)) := ⟨_, rfl⟩
  have known : ∀ key ∈ start.keys, SettingsKind.go.hasField key = true := by
    intro key there
    rw [isStart] at there
    rcases Table.mem_keys_insertMany there with default | named
    · exact hasField_goDefaults key default
    · rw [List.map_map] at named
      obtain ⟨member, isNamed, rfl⟩ := List.mem_map.1 named
      have isField := hasField_of_namedMembers isNamed
      exact isField
  have distinct : (start.keys ++ settings.custom.entries.map Prod.fst).Pairwise
      fun a b => (a == b) = false :=
    List.pairwise_append.2 ⟨start.distinct_keys, settings.custom.distinct_keys,
      fun key there other member =>
        SettingsKind.beq_eq_false (known key there) (apart other member).2⟩
  have whole : (Catalog.goDefaults.update (AnySettings.go settings).readMembers).entries =
      start.entries ++ settings.custom.entries := by
    rw [Table.update, json.entries_saved apart, Table.insertMany, List.foldl_append,
      ← Table.entries_insertMany distinct, isStart]
    rfl
  rw [whole, List.filter_append, List.filter_eq_nil_iff.2, List.filter_eq_self.2, List.nil_append]
  · intro member there
    rw [(apart member.1 (List.mem_map_of_mem there)).2]
    rfl
  · intro member there
    rw [known member.1 (List.mem_map_of_mem there)]
    exact Bool.false_ne_true

/-- Saved settings are loaded as they were just where each setting is read as what it was. -/
theorem GoSettings.HoldJson.reload_eq_ok_iff {settings : GoSettings} (json : settings.HoldJson)
    (apart : settings.CustomApart)
    {path : String} (named : Text.lower (FilePath.ofString path).extension = ".json") :
    (AnySettings.go settings).reload path = .ok (.go settings) ↔
      ∀ setting ∈ Setting.named,
        setting.2.read (setting.2.give (setting.2.get settings)).merged =
          some (setting.2.get settings) := by
  have entries := json.entries_saved apart
  have given (setting : Sigma Setting) (isNamed : setting ∈ Setting.named) :
      (Catalog.goDefaults.update (AnySettings.go settings).readMembers).find?
          (.ofText setting.2.name) = some (setting.2.give (setting.2.get settings)).merged := by
    have there : (.ofText setting.2.name, (setting.2.give (setting.2.get settings)).merged) ∈
        (AnySettings.go settings).readMembers.entries :=
      entries ▸ List.mem_append_left _ (List.mem_map_of_mem (List.mem_map_of_mem isNamed))
    rw [Table.find?_update, Table.find?_of_mem there, Option.some_or]
  have noCustom : (Catalog.goDefaults.update (AnySettings.go settings).readMembers).find?
      (.ofText Setting.custom.name) = none := by
    rw [Table.find?_update, default_custom, Option.or_none]
    cases found : (AnySettings.go settings).readMembers.find? (.ofText Setting.custom.name) with
    | none => rfl
    | some value =>
      obtain ⟨key, there, same⟩ := exists_of_findEntry (json.find?_custom found)
      have other := SettingsKind.beq_eq_false Setting.custom.known
        (apart key (List.mem_map_of_mem there)).2
      exact absurd (BEq.symm same) (Bool.eq_false_iff.1 other)
  rw [reload_eq json.isReadable_savedTable named, ofTable_eq_ok_iff, noCustom,
    json.others_saved apart]
  constructor
  · intro ⟨held, _⟩ setting isNamed
    have read := held setting isNamed
    rw [given setting isNamed] at read
    exact read
  · intro back
    refine ⟨fun setting isNamed => ?_, Table.empty, rfl, settings.custom.ofList_entries.symm⟩
    rw [given setting isNamed]
    exact back setting isNamed

/-! ## Tables -/

/-- A label that holds a JSON value is read as it was saved. -/
theorem Label.merged_given {label : Label} (json : label.given.IsValue) :
    (⟨label.given.merged⟩ : Label) = label :=
  congrArg Label.mk json.merged_eq

/-- Labels that hold JSON values are written as a merged value. -/
theorem Json.merged_ofLabels {labels : List Label} (json : ∀ label ∈ labels, label.given.IsValue) :
    (Json.ofLabels labels).merged = Json.ofLabels labels := by
  rw [Json.ofLabels, Json.merged, Json.mergedItems_eq_map, List.map_map]
  exact congrArg Json.array (List.map_congr_left fun label there => (json label there).merged_eq)

/-- A list stands for the labels that are written as it. -/
theorem Json.labels?_ofLabels {ofText : String → List Label} (labels : List Label) :
    (Json.ofLabels labels).labels? ofText = some labels := by
  rw [ofLabels, labels?, List.map_map]
  exact congrArg some (List.map_id' labels)

/-- A saved table of labels is read as it was just where its keys are texts. -/
theorem labelTable?_saved_iff {table : Table Label Label}
    (json : ∀ value ∈ table.values, value.given.IsValue) :
    (Json.ofLabelTable table).merged.labelTable? = some table ↔
      ∀ key ∈ table.keys, key.asText?.isSome := by
  rw [Json.ofLabelTable, Json.labelTable?, Json.table?_merged_ofTable Label.given (fun _ => rfl)
    fun value there => (json value there).merged_eq, Option.some_inj, Table.retold_eq_iff]

/-- Saved replacements of import paths are read as they were just where all paths that are replaced
are texts. -/
theorem imports?_saved_iff {table : Table Label (List Label)}
    (json : ∀ paths ∈ table.values, ∀ path ∈ paths, path.given.IsValue) :
    (Json.ofTable (table.map Json.ofLabels)).merged.table? Json.paths? = some table ↔
      ∀ key ∈ table.keys, key.asText?.isSome := by
  have reads (paths : List Label) : (Json.ofLabels paths).paths? = some paths :=
    Json.labels?_ofLabels paths
  rw [Json.table?_merged_ofTable Json.ofLabels reads
    fun paths there => Json.merged_ofLabels (json paths there), Option.some_inj,
    Table.retold_eq_iff]

/-- Saved words are read as they were. -/
theorem words?_saved {words : List Label} (json : ∀ word ∈ words, word.given.IsValue) :
    (Json.ofLabels words).merged.words? = some words := by
  rw [Json.merged_ofLabels json, Json.words?]
  split
  · rename_i blank
    rw [Json.ofLabels, Json.isBlank, List.isEmpty_map, List.isEmpty_iff] at blank
    rw [blank]
  · exact Json.labels?_ofLabels words

/-- Each setting is read as what it was just where the keys of the tables are texts. -/
theorem GoSettings.HoldJson.read_saved_iff {settings : GoSettings} (json : settings.HoldJson) :
    (∀ setting ∈ Setting.named, setting.2.read (setting.2.give (setting.2.get settings)).merged =
      some (setting.2.get settings)) ↔
      (∀ table ∈ settings.labelTables, ∀ key ∈ table.keys, key.asText?.isSome) ∧
        ∀ key ∈ settings.importMapping.keys, key.asText?.isSome := by
  have label {label : Label} (value : label.given.IsValue) :
      some (⟨label.given.merged⟩ : Label) = some label :=
    congrArg some (Label.merged_given value)
  have switch {switch : Switch} (value : switch.given.IsValue) :
      some (⟨switch.given.merged⟩ : Switch) = some switch :=
    congrArg (some ∘ Switch.mk) value.merged_eq
  have labels := json.labels
  have tables := json.labelTables
  have own := json.own
  simp only [Settings.labels, Settings.labelTables, ownValues, List.forall_mem_cons]
    at labels tables own
  obtain ⟨before, after, models, command, -⟩ := labels
  obtain ⟨t1, t2, t3, t4, t5, t6, -⟩ := tables
  obtain ⟨package, interfaces, v1, v2, v3, v4, v5, v6, -⟩ := own
  simp only [Setting.named, Settings.labelTables, List.forall_mem_cons]
  constructor
  · rintro ⟨-, -, -, k1, k2, k3, k4, k5, -, k6, imports, -⟩
    exact ⟨⟨(labelTable?_saved_iff t1).1 k1, (labelTable?_saved_iff t2).1 k2,
      (labelTable?_saved_iff t3).1 k3, (labelTable?_saved_iff t4).1 k4,
      (labelTable?_saved_iff t5).1 k5, (labelTable?_saved_iff t6).1 k6, List.forall_mem_nil _⟩,
      (imports?_saved_iff json.imports).1 imports⟩
  · rintro ⟨⟨k1, k2, k3, k4, k5, k6, -⟩, imports⟩
    exact ⟨label before, label after, label models, (labelTable?_saved_iff t1).2 k1,
      (labelTable?_saved_iff t2).2 k2, (labelTable?_saved_iff t3).2 k3,
      (labelTable?_saved_iff t4).2 k4, (labelTable?_saved_iff t5).2 k5, words?_saved json.words,
      (labelTable?_saved_iff t6).2 k6, (imports?_saved_iff json.imports).2 imports, label command,
      label package, label interfaces, switch v1, switch v2, switch v3, switch v4, switch v5,
      switch v6, List.forall_mem_nil _⟩

/-- Settings of JSON values that were saved are loaded as they were just from a JSON file, where all
keys of their tables are texts and no custom setting has the name of a setting. -/
theorem GoSettings.reload_eq_iff {settings : GoSettings} (json : settings.HoldJson)
    (path : String) :
    (AnySettings.go settings).reload path = .ok (.go settings) ↔
      Text.lower (FilePath.ofString path).extension = ".json" ∧
        (∀ key ∈ settings.tableKeys, key.asText?.isSome) ∧
          ∀ key ∈ settings.custom.keys, SettingsKind.go.hasField key = false := by
  have texts : (∀ key ∈ settings.tableKeys, key.asText?.isSome) ↔
      ((∀ table ∈ settings.labelTables, ∀ key ∈ table.keys, key.asText?.isSome) ∧
        ∀ key ∈ settings.importMapping.keys, key.asText?.isSome) ∧
      ∀ key ∈ settings.custom.keys, key.asText?.isSome := by
    rw [Settings.tableKeys, List.forall_mem_append, List.forall_mem_append, List.forall_mem_flatMap]
  constructor
  · intro same
    have named := extension_of_reload same
    have apart := json.customApart_of_reload named same
    have back := json.read_saved_iff.1 ((json.reload_eq_ok_iff apart named).1 same)
    exact ⟨named, texts.2 ⟨back, fun key there => (apart key there).1⟩,
      fun key there => (apart key there).2⟩
  · rintro ⟨named, keys, apart⟩
    obtain ⟨tables, custom⟩ := texts.1 keys
    exact (json.reload_eq_ok_iff (fun key there => ⟨custom key there, apart key there⟩) named).2
      (json.read_saved_iff.2 tables)

/-- Settings with a mapped name and a custom setting are loaded as they were saved. -/
theorem mapped_settings_reloaded :
    ∃ settings : GoSettings,
      Catalog.standard.get "go" (Table.ofList [("name_mapping", .object [("id", .string "ID")]),
        ("with_xml", .bool true), ("teams", .array [.string "go", .null])]) none =
          .ok (.go settings) ∧
      settings.HoldJson ∧ (AnySettings.go settings).reload "out/go.json" = .ok (.go settings) := by
  have overrides : (Table.ofList [(("name_mapping" : Label), Json.object [("id", .string "ID")]),
      ("with_xml", .bool true), ("teams", .array [.string "go", .null])]).HoldsJson := by
    refine Table.holdsJson_ofList ?_
    simp only [List.forall_mem_cons]
    exact ⟨⟨.string _, .object (by decide) (List.forall_mem_singleton.2 (.string _))⟩,
      ⟨.string _, .bool _⟩,
      ⟨.string _, .array (List.forall_mem_cons.2 ⟨.string _, List.forall_mem_singleton.2 .null⟩)⟩,
      List.forall_mem_nil _⟩
  have loaded : Catalog.standard.get "go"
      (Table.ofList [("name_mapping", .object [("id", .string "ID")]), ("with_xml", .bool true),
        ("teams", .array [.string "go", .null])]) none =
      .ok (.go { nameMapping := Table.ofList [("id", "ID")], withXml := true
                 custom := Table.ofList [("teams", .array [.string "go", .null])] }) := rfl
  have json := GoSettings.holdJson_of_get overrides
    (fun source there => absurd there (Option.not_mem_none source)) loaded
  refine ⟨_, loaded, json, (GoSettings.reload_eq_iff json "out/go.json").2 ⟨?_, ?_, ?_⟩⟩
  · decide +kernel
  · decide +kernel
  · decide +kernel

/-- A custom setting with the name of a switch is loaded as the switch. -/
theorem custom_switch_not_reloaded :
    ∃ settings : GoSettings,
      Catalog.standard.get "go"
          (Table.ofList [("custom", .object [("with_xml", .bool true)])]) none =
        .ok (.go settings) ∧
      (AnySettings.go settings).reload "go.json" = .ok (.go { withXml := true }) ∧
      (AnySettings.go settings).reload "go.json" ≠ .ok (.go settings) := by
  have overrides : (Table.ofList
      [(("custom" : Label), Json.object [("with_xml", .bool true)])]).HoldsJson := by
    refine Table.holdsJson_ofList ?_
    rw [List.forall_mem_singleton]
    exact ⟨.string _, .object (by decide) (List.forall_mem_singleton.2 (.bool _))⟩
  have loaded : Catalog.standard.get "go"
      (Table.ofList [("custom", .object [("with_xml", .bool true)])]) none =
      .ok (.go { custom := Table.ofList [("with_xml", .bool true)] }) := rfl
  have json := GoSettings.holdJson_of_get overrides
    (fun source there => absurd there (Option.not_mem_none source)) loaded
  have named : Text.lower (FilePath.ofString "go.json").extension = ".json" := by decide +kernel
  have result := reload_eq json.isReadable_savedTable named
  refine ⟨_, loaded, result.trans rfl, ?_⟩
  rw [result]
  exact nofun

end GoBindings
