import GoBindings.FilePath
import GoBindings.Json.Reader
import GoBindings.Settings.Writing

/-!
# Catalog of settings

A catalog knows the kind and the defaults of the settings of each language. Settings are asked for
by language; a file goes over the defaults, and the overrides of the request go over the file.
-/

namespace GoBindings

/-- What is found at a path. -/
inductive FileContent where
  /-- Nothing. -/
  | missing
  /-- A directory. -/
  | directory
  /-- A file with a text. -/
  | text (content : String)
  deriving DecidableEq, Repr

/-- A settings file as it was found. -/
structure SettingsFile where
  /-- The path it was looked for at. -/
  path : String
  /-- What was found there. -/
  content : FileContent
  deriving DecidableEq, Repr

namespace SettingsFile

/-- The members of the object in a settings file. -/
def read (file : SettingsFile) : Except SettingsError (Table Label Json) :=
  let path := FilePath.ofString file.path
  if file.content = .missing then .error (.fileNotFound path.toText)
  else if Text.lower path.extension ≠ ".json" then .error (.notJsonFile path.toText)
  else
    match file.content with
    | .text content =>
      match Json.parse content with
      | some (.object members) =>
        .ok (Table.ofList (members.map fun (name, value) => (.ofText name, value)))
      | some _ => .error (.notAnObject path.toText)
      | none => .error (.invalidJson path.toText)
    | _ => .error (.unreadableFile path.toText)

end SettingsFile

/-- The settings of one language. -/
structure CatalogEntry where
  /-- The kind of its settings. -/
  kind : SettingsKind
  /-- Values that go under those of files and requests. -/
  defaults : Table Label Json

/-- The settings of each language, the languages in small letters. -/
structure Catalog where
  /-- The entries by language. -/
  entries : Table String CatalogEntry

namespace Catalog

/-- The catalog without languages. -/
def empty : Catalog := ⟨Table.empty⟩

/-- The catalog with the settings of a language entered or replaced. -/
def register (catalog : Catalog) (language : String) (kind : SettingsKind)
    (defaults : Table Label Json) : Catalog :=
  ⟨catalog.entries.insert (Text.lower language) ⟨kind, defaults⟩⟩

/-- The languages in order of code points. -/
def languages (catalog : Catalog) : List String := catalog.entries.keys.mergeSort

/-- The values for a language: defaults, under those of a file, under those of the request. -/
def values (entry : CatalogEntry) (overrides : Table Label Json) (file : Option SettingsFile) :
    Except SettingsError (Table Label Json) :=
  match file with
  | none => .ok (entry.defaults.update overrides)
  | some file => do
    let members ← file.read
    return (entry.defaults.update members).update overrides

/-- The settings of a language. -/
def get (catalog : Catalog) (language : String) (overrides : Table Label Json)
    (file : Option SettingsFile) : Except SettingsError AnySettings :=
  match catalog.entries.find? (Text.lower language) with
  | none => .error (.unknownLanguage language catalog.languages)
  | some entry => do
    let members ← values entry overrides file
    AnySettings.ofTable entry.kind members

/-- The defaults of the Go target. -/
def goDefaults : Table Label Json :=
  Table.ofList
    [("package_name", .string "openapi"), ("with_xml", .bool false), ("with_validate", .bool true),
     ("generate_marshal_json", .bool true), ("generate_unmarshal_json", .bool true),
     ("enum_fmt_import", .bool false), ("enum_class_prefix", .bool false)]

/-- The catalog that knows Go. -/
def standard : Catalog := empty.register "go" .go goDefaults

end Catalog

/-- Settings of the Go target that differ from the defaults in the given values. -/
def GoSettings.load (overrides : Table Label Json) : Except SettingsError GoSettings :=
  (Catalog.standard.get "go" overrides none).map AnySettings.toGo

namespace GoSettings

/-- Overrides for clients: enumerations get a helper that needs `fmt`. -/
def clientPreset : Table Label Json :=
  Table.ofList [("package_name", .string "openapi"), ("enum_fmt_import", .bool true)]

/-- Overrides for servers: no marshaling helpers. -/
def serverPreset : Table Label Json :=
  Table.ofList
    [("package_name", .string "openapi"), ("generate_marshal_json", .bool false),
     ("generate_unmarshal_json", .bool false)]

/-- Overrides for XML: struct tags have an `xml` directive. -/
def xmlPreset : Table Label Json := Table.ofList [("with_xml", .bool true)]

end GoSettings

end GoBindings
