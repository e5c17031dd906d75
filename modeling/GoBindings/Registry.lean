import GoBindings.Generator
import GoBindings.Settings.Catalog

/-!
# Registry of generators

Generators are registered by language, with further names as aliases. A name is looked up through
the aliases first. All names are held in small letters.
-/

namespace GoBindings

/-- A class of generators, or something else that was registered as one. -/
structure GeneratorClass where
  /-- The name of the class. -/
  name : String
  /-- Whether it makes generators. -/
  isGenerator : Bool := true
  deriving DecidableEq, Repr

/-- The kind of a value that cannot be settings. -/
inductive ValueKind where
  | integer
  | decimal
  | truthValue
  | list
  deriving DecidableEq, Repr

/-- The shown form of a kind of value. -/
def ValueKind.display : ValueKind → String
  | .integer => "<class 'int'>"
  | .decimal => "<class 'float'>"
  | .truthValue => "<class 'bool'>"
  | .list => "<class 'list'>"

/-- Why the registry refuses a request. -/
inductive RegistryError where
  /-- What is registered makes no generators. -/
  | notAGenerator
  /-- An alias is the name of a registered language. -/
  | aliasIsLanguage (name : String)
  /-- An alias belongs to another language. -/
  | aliasTaken (name language : String)
  /-- No generator is registered under the name. -/
  | unknownLanguage (language : String) (available : List String)
  /-- The settings of the generator cannot be loaded. -/
  | settingsFailed (language : String) (error : SettingsError)
  /-- The settings are given by a value that cannot be settings. -/
  | invalidSettings (kind : ValueKind)
  deriving DecidableEq, Repr

/-- The wording of the failure. -/
def RegistryError.message : RegistryError → String
  | .notAGenerator => "Generator class must inherit from CodeGenerator"
  | .aliasIsLanguage name => "Alias '" ++ name ++ "' conflicts with existing primary language"
  | .aliasTaken name language => "Alias '" ++ name ++ "' already points to '" ++ language ++ "'"
  | .unknownLanguage language available =>
    "No generator registered for language: " ++ language ++ ". Available: " ++
      ", ".intercalate available
  | .settingsFailed language error =>
    "Failed to create " ++ language ++ " generator: " ++ error.message
  | .invalidSettings kind => "Invalid config type: " ++ kind.display

/-- The registered generators and their further names. -/
structure Registry where
  /-- The class of each language. -/
  generators : Table String GeneratorClass := Table.empty
  /-- The language of each alias. -/
  aliases : Table String String := Table.empty

namespace Registry

/-- The registry without generators. -/
def empty : Registry := {}

/-- Why an alias cannot be given to a language, if it cannot. -/
def aliasConflict (registry : Registry) (language name : String) : Option RegistryError :=
  let key := Text.lower name
  if registry.generators.contains key then some (.aliasIsLanguage name)
  else
    match registry.aliases.find? key with
    | some owner => if owner = language then none else some (.aliasTaken name owner)
    | none => none

/-- The registry with aliases given to a language one by one. The first that cannot be given ends
this; those before it stay given. The language itself needs no alias, and `replace` takes every
alias as it comes. -/
def addAliases (registry : Registry) (language : String) (replace : Bool) :
    List String → Registry × Option RegistryError
  | [] => (registry, none)
  | name :: rest =>
    let key := Text.lower name
    if key = language then registry.addAliases language replace rest
    else
      match if replace then none else registry.aliasConflict language name with
      | some error => (registry, some error)
      | none =>
        addAliases { registry with aliases := registry.aliases.insert key language } language
          replace rest

/-- The registry after a request to register a class for a language, and why it was refused if it
was. A language that is registered already is left alone unless it is to be replaced. -/
def register (registry : Registry) (language : String) (generator : GeneratorClass)
    (aliases : List String := []) (replace : Bool := false) : Registry × Option RegistryError :=
  if !generator.isGenerator then (registry, some .notAGenerator)
  else
    let key := Text.lower language
    if registry.generators.contains key && !replace then (registry, none)
    else
      addAliases { registry with generators := registry.generators.insert key generator } key
        replace aliases

/-- The language that a name stands for. -/
def languageOf (registry : Registry) (name : String) : String :=
  (registry.aliases.find? (Text.lower name)).getD (Text.lower name)

/-- The registered languages in order of code points. -/
def languages (registry : Registry) : List String := registry.generators.keys.mergeSort

/-- The class that is registered under a name. -/
def generatorClass (registry : Registry) (name : String) :
    Except RegistryError GeneratorClass :=
  match registry.generators.find? (registry.languageOf name) with
  | some generator => .ok generator
  | none => .error (.unknownLanguage name registry.languages)

/-- Whether a name is a language or an alias. -/
def isSupported (registry : Registry) (name : String) : Bool :=
  registry.generators.contains (Text.lower name) || registry.aliases.contains (Text.lower name)

/-- The ways to give the settings of a generator. -/
inductive SettingsSource where
  /-- Overrides of the defaults, none at all included. -/
  | overrides (values : Table Label Json)
  /-- A file. -/
  | file (file : SettingsFile)
  /-- Settings that are loaded already. -/
  | loaded (settings : AnySettings)
  /-- A value that cannot be settings. -/
  | invalid (kind : ValueKind)

/-- Why a generator is not created. -/
inductive CreateError where
  /-- The registry refuses. -/
  | registry (error : RegistryError)
  /-- The generator cannot be built. -/
  | build (error : BuildError)

/-- The settings from a source; a failure to load them is told with the name that was asked for. -/
def settingsFrom (registry : Registry) (name : String) :
    SettingsSource → Except RegistryError AnySettings
  | .overrides values => load values none
  | .file file => load Table.empty (some file)
  | .loaded settings => .ok settings
  | .invalid kind => .error (.invalidSettings kind)
where
  /-- The settings of the language that the name stands for. -/
  load (values : Table Label Json) (file : Option SettingsFile) :
      Except RegistryError AnySettings :=
    (Catalog.standard.get (registry.languageOf name) values file).mapError (.settingsFailed name)

/-- A generator of the class registered under a name, with settings from a source. -/
def create (registry : Registry) (name : String) (source : SettingsSource) :
    Except CreateError (GeneratorClass × Generator) := do
  let generatorClass ← (registry.generatorClass name).mapError .registry
  let settings ← (registry.settingsFrom name source).mapError .registry
  let generator ← (Generator.ofSettings settings.toGo).mapError .build
  return (generatorClass, generator)

/-- The registry that knows the Go generator. -/
def standard : Registry :=
  (empty.register "go" ⟨"GoCodegen", true⟩ ["golang"]).1

end Registry

end GoBindings
