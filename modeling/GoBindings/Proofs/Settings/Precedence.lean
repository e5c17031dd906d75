import GoBindings.Proofs.Settings.Loading

/-!
# Overrides of settings files

Overrides go over the members of a settings file, so loaded settings hold what the overrides give
for a named setting, whatever the file gives for it. Custom settings are given in two spellings:
beside the named settings, or among the members of the one that is named for them. The first goes
over the second, also where the first stands in the file and the second in the overrides.
-/

namespace GoBindings

/-! ## Custom settings in two spellings -/

namespace Table

variable (members : Table Label Json)

/-- The value of a custom setting that is given beside the named settings. -/
def flatCustom? (key : Label) : Option Json :=
  if SettingsKind.go.hasField key then none else members.find? key

/-- The value of a custom setting that is given under the name of the custom settings. -/
def nestedCustom? (key : Label) : Option Json :=
  ((members.find? "custom").bind (Json.table? some)).bind (·.find? key)

/-- Members that give a custom setting a value, in either spelling or alike in both. -/
structure GivesCustom (key : Label) (value : Json) : Prop where
  /-- The value is given. -/
  given : members.flatCustom? key = some value ∨ members.nestedCustom? key = some value
  /-- No other one is given beside the named settings. -/
  flat : ∀ other ∈ members.flatCustom? key, other = value
  /-- No other one is given under the name of the custom settings. -/
  nested : ∀ other ∈ members.nestedCustom? key, other = value

variable {members}

/-- Members that have the names of settings give no custom setting beside them. -/
theorem flatCustom?_eq_none (known : ∀ key ∈ members.keys, SettingsKind.go.hasField key = true)
    (key : Label) : members.flatCustom? key = none := by
  rw [flatCustom?]
  split
  · rfl
  · rename_i unknown
    exact findEntry_eq_none fun entry there =>
      SettingsKind.beq_eq_false (known entry.1 (List.mem_map_of_mem there))
        (Bool.not_eq_true _ ▸ unknown)

/-- Beside the named settings the members of the table that goes over another one come first. -/
theorem flatCustom?_update (upper : Table Label Json) (key : Label) :
    (members.update upper).flatCustom? key =
      (upper.flatCustom? key).or (members.flatCustom? key) := by
  rw [flatCustom?, flatCustom?, flatCustom?]
  split
  · rfl
  · exact find?_update members upper key

/-- Custom settings that are given under their name go over all others that are. -/
theorem nestedCustom?_update_of_some {upper : Table Label Json} {key : Label} {value : Json}
    (given : upper.nestedCustom? key = some value) :
    (members.update upper).nestedCustom? key = some value := by
  obtain ⟨table, read, found⟩ := Option.bind_eq_some_iff.1 given
  obtain ⟨custom, there, isTable⟩ := Option.bind_eq_some_iff.1 read
  rw [nestedCustom?, find?_update, there, Option.some_or, Option.bind_some, isTable,
    Option.bind_some, found]

end Table

namespace GoSettings

/-- Loaded settings hold what is given beside the named settings, and else what is given under the
name of the custom settings. A key is the same as a field's only where it is that field, so no entry
of it is lost. -/
theorem find?_custom {members : Table Label Json} {settings : GoSettings}
    (loaded : AnySettings.ofTable .go members = .ok (.go settings)) (key : Label) :
    settings.custom.find? key = (members.flatCustom? key).or (members.nestedCustom? key) := by
  obtain ⟨-, given, read, custom⟩ := ofTable_eq_ok_iff.1 loaded
  have nested : members.nestedCustom? key = given.find? key := by
    rw [Table.nestedCustom?]
    cases found : members.find? "custom" with
    | none =>
      have nothing : given = Table.empty := (found ▸ read :)
      rw [nothing]
      rfl
    | some value =>
      have isTable : value.table? some = some given := (found ▸ read :)
      rw [Option.bind_some, isTable, Option.bind_some]
  have flat : findEntry key (members.entries.filter fun member =>
      !SettingsKind.go.hasField member.1) = members.flatCustom? key := by
    rw [Table.flatCustom?]
    cases field : SettingsKind.go.hasField key with
    | true =>
      rw [if_pos rfl]
      refine findEntry_eq_none fun entry there => BEq.symm_false ?_
      have unknown := (List.mem_filter.1 there).2
      exact SettingsKind.beq_eq_false field (Bool.not_eq_true' _ ▸ unknown)
    | false =>
      rw [if_neg Bool.false_ne_true]
      refine findEntry_filter fun entry _ same => ?_
      rw [Bool.not_eq_true', Bool.eq_false_iff]
      intro known
      rw [SettingsKind.beq_eq_false known field] at same
      cases same
  rw [custom, Table.find?_insertMany (members.distinct_keys.sublist
    (List.filter_sublist.map Prod.fst)), flat, nested]

/-! ## Members that can be loaded -/

/-- Settings are loaded just where what is given for each of them can be read as it. -/
theorem exists_loaded_iff (members : Table Label Json) :
    (∃ settings, AnySettings.ofTable .go members = .ok (.go settings)) ↔
      (∀ setting ∈ Setting.named, setting.2.Readable members) ∧
        Setting.custom.Readable members := by
  constructor
  · rintro ⟨settings, loaded⟩
    obtain ⟨named, given, custom, -⟩ := ofTable_eq_ok_iff.1 loaded
    exact ⟨fun setting isNamed => (named setting isNamed).readable, custom.readable⟩
  · rintro ⟨named, custom⟩
    obtain ⟨set, known⟩ := exists_ofFields?_of_readable named custom
    have loaded : AnySettings.ofTable .go members = .ok ((AnySettings.go set).addCustom
        (members.entries.filter fun member => !SettingsKind.go.hasField member.1)) := by
      rw [AnySettings.ofTable, List.partition_eq_filter_filter]
      dsimp only
      rw [known]
      rfl
    exact ⟨_, loaded⟩

/-- The defaults of the Go target can be read. -/
theorem readable_goDefaults :
    ∀ setting ∈ Setting.named, setting.2.Readable Catalog.goDefaults := by
  simp only [Setting.named, List.forall_mem_cons, Setting.Readable]
  decide +kernel

/-- What is given over readable members can be read where it could be without them. -/
theorem Setting.readable_over_iff {β : Type} {setting : Setting β} {under : Table Label Json}
    (readable : setting.Readable under) (members overrides : Table Label Json) :
    setting.Readable ((under.update members).update overrides) ↔
      setting.Readable (members.update overrides) := by
  rw [Readable, Readable, Table.find?_update, Table.find?_update, Table.find?_update,
    ← Option.or_assoc]
  cases found : (overrides.find? (.ofText setting.name)).or
      (members.find? (.ofText setting.name)) with
  | some given => rw [Option.some_or]
  | none =>
    rw [Option.none_or]
    exact iff_of_true readable fun value found => absurd found (Option.not_mem_none value)

/-! ## Overrides -/

/-- What overrides give for a named setting is held, whatever stands in the file. -/
theorem get_of_overrides {members overrides : Table Label Json} {settings : GoSettings}
    (loaded : AnySettings.ofTable .go (members.update overrides) = .ok (.go settings))
    {setting : Sigma Setting} (isNamed : setting ∈ Setting.named) {value : Json}
    (given : overrides.find? (.ofText setting.2.name) = some value) :
    setting.2.read value = some (setting.2.get settings) := by
  have held := (ofTable_eq_ok_iff.1 loaded).1 setting isNamed
  rw [Table.find?_update, given, Option.some_or] at held
  exact held

/-- What overrides give for a custom setting is held just where they give it beside the named
settings, or where nothing else stands there in the file: what stands there comes before what they
give under the name of the custom settings only. -/
theorem find?_custom_of_overrides {members overrides : Table Label Json} {settings : GoSettings}
    (loaded : AnySettings.ofTable .go ((Catalog.goDefaults.update members).update overrides) =
      .ok (.go settings))
    {key : Label} {value : Json} (gives : overrides.GivesCustom key value) :
    settings.custom.find? key = some value ↔
      (overrides.flatCustom? key).isSome ∨ ∀ other ∈ members.flatCustom? key, other = value := by
  have defaults : Catalog.goDefaults.flatCustom? key = none :=
    Table.flatCustom?_eq_none hasField_goDefaults key
  rw [find?_custom loaded, Table.flatCustom?_update, Table.flatCustom?_update, defaults,
    Option.or_none]
  cases flat : overrides.flatCustom? key with
  | some given =>
    rw [gives.flat given flat, Option.some_or, Option.some_or]
    exact iff_of_true rfl (.inl rfl)
  | none =>
    have nested : overrides.nestedCustom? key = some value :=
      gives.given.resolve_left (flat ▸ nofun)
    rw [Table.nestedCustom?_update_of_some nested, Option.none_or]
    cases members.flatCustom? key with
    | none => simp
    | some other => simp

/-- Settings are loaded from a file under overrides just where what is given for each setting by the
overrides, or else by the file, can be read as it. They hold what the overrides give for a named
setting. What the overrides give for a custom setting they hold just where it is given beside the
named settings, or where the file gives nothing else there. -/
theorem overrides_prevail_iff {file : SettingsFile} {members : Table Label Json}
    (read : file.read = .ok members) (overrides : Table Label Json) :
    ((∃ settings, Catalog.standard.get "go" overrides (some file) = .ok (.go settings)) ↔
      (∀ setting ∈ Setting.named, setting.2.Readable (members.update overrides)) ∧
        Setting.custom.Readable (members.update overrides)) ∧
    ∀ settings, Catalog.standard.get "go" overrides (some file) = .ok (.go settings) →
      (∀ setting ∈ Setting.named, ∀ value, overrides.find? (.ofText setting.2.name) = some value →
        setting.2.read value = some (setting.2.get settings)) ∧
      ∀ key value, overrides.GivesCustom key value →
        (settings.custom.find? key = some value ↔
          (overrides.flatCustom? key).isSome ∨
            ∀ other ∈ members.flatCustom? key, other = value) := by
  have load : Catalog.standard.get "go" overrides (some file) =
      AnySettings.ofTable .go ((Catalog.goDefaults.update members).update overrides) := by
    rw [get_go_file, read]
    rfl
  have custom : Setting.custom.Readable Catalog.goDefaults := by
    rw [Setting.Readable, default_custom]
    exact fun value found => absurd found (Option.not_mem_none value)
  rw [load]
  constructor
  · rw [exists_loaded_iff, Setting.readable_over_iff custom]
    exact and_congr_left' (forall₂_congr fun setting isNamed =>
      Setting.readable_over_iff (readable_goDefaults setting isNamed) members overrides)
  · intro settings loaded
    exact ⟨fun setting isNamed value given => get_of_overrides loaded isNamed given,
      fun key value gives => find?_custom_of_overrides loaded gives⟩

/-- Overrides go over a value in the file that could not be read, and a custom setting beside the
named settings goes over one that the file gives under their name. -/
theorem overrides_over_unreadable_value :
    let file : SettingsFile := ⟨"conf/go.json", .text
      "\x7b\"package_name\": \"pets\", \"name_mapping\": 5, \"custom\": \x7b\"flavor\": 1\x7d\x7d"⟩
    let overrides : Table Label Json := Table.ofList
      [("package_name", .string "shop"), ("name_mapping", .null), ("flavor", .integer 2)]
    (∃ members, file.read = .ok members) ∧ overrides.GivesCustom "flavor" (.integer 2) ∧
      ∃ settings, Catalog.standard.get "go" overrides (some file) = .ok (.go settings) ∧
        settings.packageName = "shop" ∧ settings.custom.find? "flavor" = some (.integer 2) := by
  intro file overrides
  have parsed : Json.parse
      "\x7b\"package_name\": \"pets\", \"name_mapping\": 5, \"custom\": \x7b\"flavor\": 1\x7d\x7d" =
        some (.object [("package_name", .string "pets"), ("name_mapping", .integer 5),
          ("custom", .object [("flavor", .integer 1)])]) := by decide +kernel
  have read := read_of_parse "conf/go.json" (by decide +kernel) parsed
  have gives : overrides.GivesCustom "flavor" (.integer 2) :=
    ⟨by decide +kernel, by decide +kernel, by decide +kernel⟩
  obtain ⟨loads, holds⟩ := overrides_prevail_iff read overrides
  obtain ⟨settings, loaded⟩ := loads.2 (by
    simp only [Setting.named, List.forall_mem_cons, Setting.Readable]
    decide +kernel)
  obtain ⟨named, custom⟩ := holds settings loaded
  have package := named ⟨_, Setting.packageName⟩ (by simp [Setting.named]) (.string "shop") rfl
  have flavor := (custom "flavor" (.integer 2) gives).2 (.inl (by decide +kernel))
  exact ⟨⟨_, read⟩, gives, settings, loaded, (Option.some.inj package).symm, flavor⟩

/-- A custom setting that overrides give under the name of the custom settings is lost where a file
gives it beside the named settings. -/
theorem nested_override_lost :
    let file : SettingsFile := ⟨"go.json", .text "\x7b\"flavor\": \"x\"\x7d"⟩
    let overrides : Table Label Json :=
      Table.ofList [("custom", .object [("flavor", .string "y")])]
    overrides.GivesCustom "flavor" (.string "y") ∧
      ∃ settings, Catalog.standard.get "go" overrides (some file) = .ok (.go settings) ∧
        settings.custom.find? "flavor" = some (.string "x") ∧
        settings.custom.find? "flavor" ≠ some (.string "y") := by
  intro file overrides
  have parsed : Json.parse "\x7b\"flavor\": \"x\"\x7d" =
      some (.object [("flavor", .string "x")]) := by decide +kernel
  have read := read_of_parse "go.json" (by decide +kernel) parsed
  have loaded : Catalog.standard.get "go" overrides (some file) =
      .ok (.go { custom := Table.ofList [("flavor", .string "x")] }) := by
    rw [get_go_file, read]
    rfl
  exact ⟨⟨by decide +kernel, by decide +kernel, by decide +kernel⟩, _, loaded, by decide +kernel,
    by decide +kernel⟩

end GoSettings

end GoBindings
