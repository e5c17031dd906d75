import GoBindings.Naming.InvalidMapping
import GoBindings.Naming.ReservedWords

/-!
# Failures of settings

Settings fail to load for a reason in the request, in the file or in a value. The wording is here
and nowhere else.
-/

namespace GoBindings

/-- Why settings cannot be loaded or saved. -/
inductive SettingsError where
  /-- No settings are known for the language. -/
  | unknownLanguage (language : String) (available : List String)
  /-- There is no file of that path. -/
  | fileNotFound (path : String)
  /-- The file does not have the extension of JSON files. -/
  | notJsonFile (path : String)
  /-- The text of the file is not JSON. -/
  | invalidJson (path : String)
  /-- The file cannot be read. -/
  | unreadableFile (path : String)
  /-- The file holds a value that is no object. -/
  | notAnObject (path : String)
  /-- A setting has a value of the wrong kind. -/
  | invalidValue
  /-- The file cannot be written. -/
  | unwritableFile (path : String)
  deriving DecidableEq, Repr

/-- The wording of the failure. -/
def SettingsError.message : SettingsError → String
  | .unknownLanguage language available =>
    "No configuration registered for language: " ++ language ++ ". Available: " ++
      ", ".intercalate available
  | .fileNotFound path => "Configuration file not found: " ++ path
  | .notJsonFile path => "Configuration file must be JSON: " ++ path
  | .invalidJson path => "Invalid JSON in configuration file " ++ path
  | .unreadableFile path => "Failed to load configuration file " ++ path
  | .notAnObject path => "Configuration file must contain a JSON object: " ++ path
  | .invalidValue => "Invalid configuration"
  | .unwritableFile path => "Failed to save configuration to " ++ path

/-- Why a generator cannot be built from its settings. -/
inductive BuildError where
  /-- The settings cannot be loaded. -/
  | settings (error : SettingsError)
  /-- The escape suffix is empty. -/
  | emptySuffix
  /-- An escaped name could be reserved again. -/
  | suffixClash (suffix : String) (words : List String)
  /-- A name or type is mapped to nothing. -/
  | mapping (error : InvalidMapping)
  deriving Repr

/-- The failure to build a table of reserved words as a failure to build a generator. -/
def ReservedWordsError.toBuildError : ReservedWordsError → BuildError
  | .emptySuffix => .emptySuffix
  | .clash suffix words => .suffixClash suffix words
  | .emptyReplacement name => .mapping ⟨name, .emptyOverride⟩

/-- The wording of the failure. -/
def BuildError.message : BuildError → String
  | .settings error => error.message
  | .emptySuffix => "Escape suffix cannot be empty"
  | .suffixClash suffix words =>
    "Reserved words clash with escape suffix '" ++ suffix ++ "': " ++ ", ".intercalate words
  | .mapping error => error.message

end GoBindings
