import GoBindings.Json.Printer
import GoBindings.Settings.Reading

/-!
# Writing settings

Settings are written as one JSON object in the order of their names, each as it was given. In a
saved file the custom settings stand beside the others, as they are read back.
-/

namespace GoBindings

/-- The name of the member for a key: a text as it is, any other key as it is written. -/
def Label.memberName (key : Label) : String := key.asText?.getD key.given.scalarText

/-- A table as an object. -/
def Json.ofTable (table : Table Label Json) : Json :=
  .object (table.entries.map fun (key, value) => (key.memberName, value))

/-- A table of labels as an object. -/
def Json.ofLabelTable (table : Table Label Label) : Json := .ofTable (table.map Label.given)

/-- The common settings in order. -/
def Settings.fields (settings : Settings) : List (String × Json) :=
  [("model_name_prefix", settings.modelNamePrefix.given),
   ("model_name_suffix", settings.modelNameSuffix.given),
   ("model_package", settings.modelPackage.given),
   ("name_mapping", .ofLabelTable settings.nameMapping),
   ("parameter_name_mapping", .ofLabelTable settings.parameterNameMapping),
   ("model_name_mapping", .ofLabelTable settings.modelNameMapping),
   ("enum_name_mapping", .ofLabelTable settings.enumNameMapping),
   ("reserved_words_mapping", .ofLabelTable settings.reservedWordsMapping),
   ("extra_reserved_words", .ofLabels settings.extraReservedWords),
   ("type_mapping", .ofLabelTable settings.typeMapping),
   ("import_mapping", .ofTable (settings.importMapping.map .ofLabels)),
   ("post_process_command", settings.postProcessCommand.given),
   ("custom", .ofTable settings.custom)]

/-- The Go settings in order, the common ones first. -/
def GoSettings.fields (settings : GoSettings) : List (String × Json) :=
  settings.toSettings.fields ++
  [("package_name", settings.packageName.given),
   ("api_package", settings.apiPackage.given),
   ("with_xml", settings.withXml.given),
   ("with_validate", settings.withValidate.given),
   ("generate_marshal_json", settings.generateMarshalJson.given),
   ("generate_unmarshal_json", settings.generateUnmarshalJson.given),
   ("enum_fmt_import", settings.enumFmtImport.given),
   ("enum_class_prefix", settings.enumClassPrefix.given)]

namespace AnySettings

/-- The settings in order. -/
def fields : AnySettings → List (String × Json)
  | .common settings => settings.fields
  | .go settings => settings.fields

/-- The custom settings. -/
def custom : AnySettings → Table Label Json
  | .common settings => settings.custom
  | .go settings => settings.custom

/-- The settings as one object. -/
def toJson (settings : AnySettings) : Json := .object settings.fields

/-- The members of a saved file: the named settings, and then the custom ones, which take the place
of a named setting of the same name. -/
def savedTable (settings : AnySettings) : Table Label Json :=
  let named := settings.fields.filter (·.1 ≠ "custom")
  (Table.ofList (named.map fun (name, value) => (.ofText name, value))).update settings.custom

/-- The text of a saved file. -/
def savedText (settings : AnySettings) : String :=
  (Json.ofTable settings.savedTable).pretty 0

end AnySettings

end GoBindings
