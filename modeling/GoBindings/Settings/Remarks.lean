import GoBindings.Naming.PackageName
import GoBindings.Settings.Basic

/-!
# Remarks on settings

Settings may load and still hold entries that will fail once they are met, or a package name that is
bad style. Each such entry gives one remark.
-/

namespace GoBindings

/-- One remark for each key of a table that is mapped to nothing. -/
def emptyValueRemarks (name : String) (table : Table Label Label) : List String :=
  (table.entries.filter (·.2.isBlank)).map fun (key, _) =>
    "Empty value for '" ++ key.text ++ "' in " ++ name

/-- The remarks on common settings. -/
def Settings.remarks (settings : Settings) : List String :=
  emptyValueRemarks "name_mapping" settings.nameMapping ++
  emptyValueRemarks "parameter_name_mapping" settings.parameterNameMapping ++
  emptyValueRemarks "model_name_mapping" settings.modelNameMapping ++
  emptyValueRemarks "enum_name_mapping" settings.enumNameMapping ++
  emptyValueRemarks "reserved_words_mapping" settings.reservedWordsMapping ++
  ((settings.typeMapping.entries.filter (·.2.isBlank)).map fun (key, _) =>
    "Empty type for '" ++ key.text ++ "' in type_mapping") ++
  ((settings.importMapping.entries.filter (·.2.isEmpty)).map fun (path, _) =>
    "Import '" ++ path.text ++ "' is mapped to nothing in import_mapping")

/-- The remarks on Go settings. -/
def GoSettings.remarks (settings : GoSettings) : List String :=
  settings.toSettings.remarks ++ packageNameRemarks settings.packageName.content

end GoBindings
