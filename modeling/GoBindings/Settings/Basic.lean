import GoBindings.Label
import GoBindings.Settings.Switch
import GoBindings.Table

/-!
# Settings

What a user can set for a run. Common settings concern names, types and imports; the Go settings add
what only a Go target has. Settings are read once and never change during a run. Labels and switches
keep the values that were given for them, the keys of tables too, so settings can be saved as they
were read.
-/

namespace GoBindings

/-- Settings of every target. -/
structure Settings where
  /-- Put before every model name. -/
  modelNamePrefix : Label := ""
  /-- Put after every model name. -/
  modelNameSuffix : Label := ""
  /-- The package of the models; imports under it are dropped from models. -/
  modelPackage : Label := ""
  /-- Overrides of field names. -/
  nameMapping : Table Label Label := Table.empty
  /-- Overrides of parameter names. -/
  parameterNameMapping : Table Label Label := Table.empty
  /-- Overrides of model names. -/
  modelNameMapping : Table Label Label := Table.empty
  /-- Overrides of enumeration names. -/
  enumNameMapping : Table Label Label := Table.empty
  /-- Replacements of reserved words. -/
  reservedWordsMapping : Table Label Label := Table.empty
  /-- Further reserved words. -/
  extraReservedWords : List Label := []
  /-- Overrides of the types of primitive tokens. -/
  typeMapping : Table Label Label := Table.empty
  /-- Replacements of import paths, each by any number of paths. -/
  importMapping : Table Label (List Label) := Table.empty
  /-- The command that formats written files; a blank one is none. -/
  postProcessCommand : Label := ⟨.null⟩
  /-- Settings that no field is named for. -/
  custom : Table Label Json := Table.empty

/-- Settings of the Go target. -/
structure GoSettings extends Settings where
  /-- The name of the generated package. -/
  packageName : Label := "openapi"
  /-- The package of the interface files; imports under it are dropped from them. -/
  apiPackage : Label := ""
  /-- Whether struct tags have an `xml` directive. -/
  withXml : Switch := false
  /-- Whether struct tags have a `validate` directive. -/
  withValidate : Switch := true
  /-- Whether models get a marshaling helper. -/
  generateMarshalJson : Switch := true
  /-- Whether models get an unmarshaling helper. -/
  generateUnmarshalJson : Switch := true
  /-- Whether enumerations import `fmt`. -/
  enumFmtImport : Switch := false
  /-- Whether the name of an enumeration is put before its constants. -/
  enumClassPrefix : Switch := false

end GoBindings
