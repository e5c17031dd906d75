import GoBindings.Settings.Basic
import GoBindings.Settings.Error

/-!
# Reading settings

Settings are read from the members of a JSON object. A label or a switch takes any value. A table
may be given as an object or as a list of pairs, and a blank value stands for an empty table.
Members that no setting is named for are kept as custom settings.
-/

namespace GoBindings

namespace Json

/-- The key that a value gives, if it has no parts. -/
def key? : Json → Option Label
  | .array _ => none
  | .object _ => none
  | value => some ⟨value⟩

/-- A key with its value: a list of two, a text of two characters, or an object of two keys. -/
def pair? : Json → Option (Label × Json)
  | .array [key, value] => key.key?.map (·, value)
  | .string value =>
    match value.toList with
    | [key, value] => some (.ofText (String.singleton key), .string (String.singleton value))
    | _ => none
  | .object [(key, _), (value, _)] => some (.ofText key, .string value)
  | _ => none

/-- The members of an object or of a list of pairs. -/
def members? : Json → Option (List (Label × Json))
  | .object members => some (members.map fun (name, value) => (.ofText name, value))
  | .array items => items.mapM pair?
  | _ => none

/-- A table whose values are read one by one, of a repeated key the last one only; a blank value is
the empty table. -/
def table? {α : Type} (read : Json → Option α) (value : Json) : Option (Table Label α) :=
  if value.isBlank then some Table.empty
  else do
    let members ← value.members?
    let entries ← (Table.ofList members).entries.mapM fun (key, value) => (read value).map (key, ·)
    some (Table.ofList entries)

/-- A table of labels. -/
def labelTable? (value : Json) : Option (Table Label Label) := value.table? (some ⟨·⟩)

/-- The labels that a value stands for: the items of a list or the keys of an object. What a text
stands for is said by `ofText`. -/
def labels? (ofText : String → List Label) : Json → Option (List Label)
  | .string text => some (ofText text)
  | .array items => some (items.map Label.mk)
  | .object members => some (members.map (Label.ofText ·.1))
  | _ => none

/-- The replacements of an import path; a text is one path. -/
def paths? (value : Json) : Option (List Label) := value.labels? ([.ofText ·])

/-- A list of words; a text stands for its characters, and a blank value for no words. -/
def words? (value : Json) : Option (List Label) :=
  if value.isBlank then some []
  else value.labels? fun text => text.toList.map fun c => .ofText (String.singleton c)

end Json

namespace Settings

/-- The names of the common settings. -/
def fieldNames : List String :=
  ["model_name_prefix", "model_name_suffix", "model_package", "name_mapping",
   "parameter_name_mapping", "model_name_mapping", "enum_name_mapping", "reserved_words_mapping",
   "extra_reserved_words", "type_mapping", "import_mapping", "post_process_command", "custom"]

/-- The settings with one of them set from its value; none if the value is of the wrong kind. -/
def set? (settings : Settings) (name : String) (value : Json) : Option Settings :=
  match name with
  | "model_name_prefix" => some { settings with modelNamePrefix := ⟨value⟩ }
  | "model_name_suffix" => some { settings with modelNameSuffix := ⟨value⟩ }
  | "model_package" => some { settings with modelPackage := ⟨value⟩ }
  | "name_mapping" => value.labelTable?.map ({ settings with nameMapping := · })
  | "parameter_name_mapping" => value.labelTable?.map ({ settings with parameterNameMapping := · })
  | "model_name_mapping" => value.labelTable?.map ({ settings with modelNameMapping := · })
  | "enum_name_mapping" => value.labelTable?.map ({ settings with enumNameMapping := · })
  | "reserved_words_mapping" => value.labelTable?.map ({ settings with reservedWordsMapping := · })
  | "extra_reserved_words" => value.words?.map ({ settings with extraReservedWords := · })
  | "type_mapping" => value.labelTable?.map ({ settings with typeMapping := · })
  | "import_mapping" => (value.table? Json.paths?).map ({ settings with importMapping := · })
  | "post_process_command" => some { settings with postProcessCommand := ⟨value⟩ }
  | "custom" => (value.table? some).map ({ settings with custom := · })
  | _ => none

end Settings

namespace GoSettings

/-- The names of the settings that only the Go target has. -/
def ownFieldNames : List String :=
  ["package_name", "api_package", "with_xml", "with_validate", "generate_marshal_json",
   "generate_unmarshal_json", "enum_fmt_import", "enum_class_prefix"]

/-- The settings with one of them set from its value; none if the value is of the wrong kind. -/
def set? (settings : GoSettings) (name : String) (value : Json) : Option GoSettings :=
  match name with
  | "package_name" => some { settings with packageName := ⟨value⟩ }
  | "api_package" => some { settings with apiPackage := ⟨value⟩ }
  | "with_xml" => some { settings with withXml := ⟨value⟩ }
  | "with_validate" => some { settings with withValidate := ⟨value⟩ }
  | "generate_marshal_json" => some { settings with generateMarshalJson := ⟨value⟩ }
  | "generate_unmarshal_json" => some { settings with generateUnmarshalJson := ⟨value⟩ }
  | "enum_fmt_import" => some { settings with enumFmtImport := ⟨value⟩ }
  | "enum_class_prefix" => some { settings with enumClassPrefix := ⟨value⟩ }
  | _ => (settings.toSettings.set? name value).map ({ settings with toSettings := · })

end GoSettings

/-- The two kinds of settings. -/
inductive SettingsKind where
  /-- The common settings only. -/
  | common
  /-- The settings of the Go target. -/
  | go
  deriving DecidableEq, Repr

/-- Settings of either kind. -/
inductive AnySettings where
  /-- The common settings only. -/
  | common (settings : Settings)
  /-- The settings of the Go target. -/
  | go (settings : GoSettings)

namespace SettingsKind

/-- The names of the settings of a kind. -/
def fieldNames : SettingsKind → List String
  | .common => Settings.fieldNames
  | .go => Settings.fieldNames ++ GoSettings.ownFieldNames

/-- Whether a kind of settings has one of a certain name. -/
def hasField (kind : SettingsKind) (key : Label) : Bool :=
  key.asText?.any kind.fieldNames.contains

/-- The settings of a kind with every value as it comes. -/
def initial : SettingsKind → AnySettings
  | .common => .common {}
  | .go => .go {}

end SettingsKind

namespace AnySettings

/-- The settings with one of them set from its value; none if no setting has that name or the value
is of the wrong kind. -/
def set? (settings : AnySettings) (key : Label) (value : Json) : Option AnySettings := do
  let name ← key.asText?
  match settings with
  | .common settings => (settings.set? name value).map .common
  | .go settings => (settings.set? name value).map .go

/-- The settings with further custom settings. -/
def addCustom (members : List (Label × Json)) : AnySettings → AnySettings
  | .common settings => .common { settings with custom := settings.custom.insertMany members }
  | .go settings => .go { settings with custom := settings.custom.insertMany members }

/-- The settings of a kind in which the given members are set. -/
def ofFields? (kind : SettingsKind) (members : List (Label × Json)) : Option AnySettings :=
  members.foldlM (fun settings (key, value) => settings.set? key value) kind.initial

/-- The settings of a kind that the members of an object describe. Members that the kind has no
name for become custom settings, after those given as such. -/
def ofTable (kind : SettingsKind) (members : Table Label Json) :
    Except SettingsError AnySettings :=
  let (known, others) := members.entries.partition (kind.hasField ·.1)
  match ofFields? kind known with
  | some settings => .ok (settings.addCustom others)
  | none => .error .invalidValue

/-- The settings as those of the Go target; common settings leave the others as they come. -/
def toGo : AnySettings → GoSettings
  | .common settings => { toSettings := settings }
  | .go settings => settings

end AnySettings

end GoBindings
