import GoBindings.Generation
import GoBindings.GoModel
import GoBindings.Literal
import GoBindings.Naming.EnumName
import GoBindings.Naming.FieldName
import GoBindings.Naming.FileName
import GoBindings.Naming.OperationName
import GoBindings.Settings.Remarks
import GoBindings.Settings.Error
import GoBindings.StructTag
import GoBindings.Template
import GoBindings.TypeResolver
import GoBindings.UnitImports

/-!
# The Go generator

A generator is built once from its settings. It turns models, operations and their parts into the
records that files are written from: every name, type, tag and import settled. The only thing about
it that grows is the list of models that references may name, and the templates that were added.
-/

namespace GoBindings

/-- What a template of model files may use. -/
structure ModelFileValues where
  /-- The name of the package. -/
  packageName : Label
  /-- Whether constants of enumerations begin with the name of their type. -/
  enumClassPrefix : Switch
  /-- The import paths of the file. -/
  imports : List Label
  /-- The model. -/
  model : GoModel

/-- The templates of model files. -/
inductive ModelTemplates where
  /-- The ones that come with the generator. -/
  | shipped
  /-- Templates that were added in their place. -/
  | added (engine : TemplateEngine ModelFileValues)

/-- The name of the template of model files. -/
def modelTemplateName : String := "model.go.j2"

/-- The name of the template of import declarations. -/
def importsTemplateName : String := "imports.go.j2"

namespace ModelTemplates

/-- The templates with another one added. The first one takes the place of all that were shipped,
and its language is that of all later ones. -/
def add (templates : ModelTemplates) (language : TemplateLanguage ModelFileValues)
    (name text : String) : ModelTemplates :=
  match templates with
  | .shipped => .added { language, store := (TemplateStore.ofDirectory none).add name text }
  | .added engine => .added (engine.add name text)

/-- Whether the template of a name can be loaded. -/
def contains (templates : ModelTemplates) (name : String) : Bool :=
  match templates with
  | .shipped => name == modelTemplateName || name == importsTemplateName
  | .added engine => engine.contains name

end ModelTemplates

/-- A generator of Go code. -/
structure Generator where
  /-- The settings. -/
  settings : GoSettings
  /-- The resolution of schemas, with the registered models. -/
  types : TypeResolver
  /-- The templates of model files. -/
  templates : ModelTemplates := .shipped

/-- The field that holds a member of a union, named after the declaration of the member. -/
def unionFieldName (declaration : String) : String :=
  let bare := declaration.toList.filter (· != '*')
  camel (sanitize (String.ofList (spellSlices bare)))
where
  /-- A declaration with its slices spelt out. -/
  spellSlices : List Char → List Char
    | '[' :: ']' :: rest => "array_of_".toList ++ spellSlices rest
    | c :: rest => c :: spellSlices rest
    | [] => []

/-- The spelling of an HTTP method in method names. -/
def httpMethodName (method : String) : String := camel (Text.lower method)

namespace Generator

/-- The generator with some settings, before any model is registered. -/
def ofSettings (settings : GoSettings) : Except BuildError Generator := do
  let naming ← (Naming.ofSettings settings.toSettings).mapError ReservedWordsError.toBuildError
  let types ← (TypeResolver.ofNaming naming).mapError .mapping
  return { settings, types }

/-- The rules for names. -/
def naming (generator : Generator) : Naming := generator.types.naming

/-- The generator with the models of a run registered, so that they may refer to each other. -/
def register (generator : Generator) (models : List Model) : Generator :=
  { generator with types := generator.types.registerAll (models.map Model.name) }

/-- The generator with a template of some language added. -/
def addTemplate (generator : Generator) (language : TemplateLanguage ModelFileValues)
    (name text : String) : Generator :=
  { generator with templates := generator.templates.add language name text }

/-- The name of the type of the inline enumeration that a property holds, if it holds one. -/
def inlineEnumName (generator : Generator) (field : Field) :
    Report InvalidMapping (Option Label) :=
  match field.schema with
  | .enum _ _ => some <$> generator.naming.enumTypeName field.baseName
  | _ => pure none

/-- The struct field of a property. -/
def processField (generator : Generator) (field : Field) : Report InvalidMapping GoField := do
  let type ← generator.types.resolve field.schema
  let enumName ← generator.inlineEnumName field
  let name ← generator.naming.fieldName field.baseName
  return {
    name, type, enumName
    baseName := field.baseName
    dataType := type.name
    tag := structTag field generator.settings.withXml.isOn generator.settings.withValidate.isOn
    required := field.required
    isNullable := field.nullable
    isContainerLike := type.isContainerLike
    description := field.description }

/-- The types and declarations of the members of a union, and whether it allows null. -/
structure Union where
  /-- How the members combine. -/
  kind : CompositionKind
  /-- The types of the members without the null. -/
  types : List GoType
  /-- The declarations of the members, each once. -/
  declarations : List String
  /-- Whether there was a null. -/
  isNullable : Bool

/-- The union that a model is. A composition of which every member holds is none. -/
def union? (generator : Generator) (composition : Option Composition) :
    Report InvalidMapping (Option Union) :=
  match composition with
  | none => pure none
  | some composition =>
    if composition.kind = .allOf then pure none
    else do
      let (members, isNullable) := splitNull composition.members
      let types ← generator.types.resolveAll members
      let declarations ← generator.types.memberDeclarations composition.members
      return some { kind := composition.kind, types, declarations, isNullable }

/-- The constant of a value of an enumeration. -/
def processConstant (generator : Generator) (datatype value : String) :
    Report InvalidMapping GoConstant := do
  let name ← generator.naming.enumConstantName value datatype
  return { name, literal := enumLiteral value datatype }

/-- The declaration of the values of an enumeration, and its constants. -/
def processEnumeration (generator : Generator) (enumeration : Option Enumeration) :
    Report InvalidMapping (Option String × List GoConstant) :=
  match enumeration with
  | none => pure (none, [])
  | some enumeration => do
    let datatype ← generator.types.declaration (.primitive enumeration.backing)
    let constants ← enumeration.values.mapM (generator.processConstant datatype)
    return (some datatype, constants)

/-- The imports of a model file. A union imports what its members need, and every other model what
its fields need. -/
def importsOf (generator : Generator) (model : Model) (fields : List GoField)
    (union : Option Union) : List Label :=
  let settings := generator.settings
  let types := match union with
    | some union => union.types
    | none => fields.map GoField.type
  (modelImports types {
    existing := model.imports.map .ofText
    modelPackage := settings.modelPackage.content
    isEnum := model.enumeration.isSome
    hasOneOf := union.any fun union => union.kind == .oneOf && !union.declarations.isEmpty
    enumFmtImport := settings.enumFmtImport.isOn
    generateUnmarshalJson := settings.generateUnmarshalJson.isOn
    importMapping := settings.importMapping }).paths

/-- The declarations of a union of a kind. -/
def declarationsOf (kind : CompositionKind) (union : Option Union) : List String :=
  match union with
  | some union => if union.kind = kind then union.declarations else []
  | none => []

/-- The record of a model. -/
def processModel (generator : Generator) (model : Model) : Report InvalidMapping GoModel := do
  let name ← generator.naming.modelTypeName model.name
  let fields ← model.fields.mapM generator.processField
  let union ← generator.union? model.composition
  let (enumDataType, constants) ← generator.processEnumeration model.enumeration
  let fileName ← generator.naming.modelFileName model.name
  let oneOf := declarationsOf .oneOf union
  let anyOf := declarationsOf .anyOf union
  return {
    name, fileName, fields, enumDataType, constants, oneOf, anyOf
    isEnum := model.enumeration.isSome
    members := (oneOf ++ anyOf).map fun declaration =>
      { fieldName := unionFieldName declaration, declaration }
    isNullable := union.any Union.isNullable
    imports := generator.importsOf model fields union
    generateMarshalJson := generator.settings.generateMarshalJson
    generateUnmarshalJson := generator.settings.generateUnmarshalJson
    description := model.description }

/-- The record of a parameter of a known type. -/
def parameterOfType (generator : Generator) (parameter : Parameter) (type : GoType) :
    Report InvalidMapping GoParameter := do
  let name := (← generator.naming.parameterName parameter.rawName).text
  return {
    name
    exportName := exportedName name
    baseName := parameter.rawName
    dataType := type.name
    location := parameter.location
    required := parameter.required
    isMulti := parameter.collectionFormat = some multiFormat }

/-- The record of a parameter. -/
def processParameter (generator : Generator) (parameter : Parameter) :
    Report InvalidMapping GoParameter := do
  let type ← generator.types.resolve parameter.schema
  generator.parameterOfType parameter type

/-- The types of the parameters and of the answer of an operation. -/
def typeOperation (generator : Generator) (operation : Operation) :
    Report InvalidMapping TypedOperation := do
  let parameterTypes ← generator.types.resolveAll (operation.parameters.map Parameter.schema)
  let returnType ← operation.returnType.mapM generator.types.resolve
  return { operation, parameterTypes, returnType }

/-- The record of an operation together with its types. -/
def processOperation (generator : Generator) (operation : Operation) :
    Report InvalidMapping (TypedOperation × GoOperation) := do
  let typed ← generator.typeOperation operation
  let nickname ← (generator.naming.operationName operation.operationId).report
  let parameters ← (operation.parameters.zip typed.parameterTypes).mapM
    fun (parameter, type) => generator.parameterOfType parameter type
  return (typed, {
    nickname, parameters
    operationId := operation.operationId
    httpMethod := httpMethodName operation.httpMethod
    returnType := typed.returnType.map GoType.name })

/-- The record of a group of operations. -/
def processOperations (generator : Generator) (group : String) (operations : List Operation) :
    Report InvalidMapping GoApi := do
  let processed ← operations.mapM generator.processOperation
  let imports := operationImports (processed.map Prod.fst) []
    generator.settings.apiPackage.content generator.settings.importMapping
  let fileName ← (apiFileName group).report
  let testFileName ← (apiTestFileName group).report
  return {
    name := group, fileName, testFileName
    operations := processed.map Prod.snd
    imports := imports.paths }

/-- The remarks on a property: a type that cannot be resolved, and a name that was corrected. The
type is given along where there is one. -/
def fieldRemarks (generator : Generator) (model : Model) (field : Field) :
    Report InvalidMapping (List String × List GoType) := do
  let resolved ← (generator.types.resolve field.schema).attempt
  let name ← generator.naming.fieldName field.baseName
  let place := model.name ++ "." ++ field.baseName
  let renamed :=
    if name == .ofText (camel (sanitize field.baseName)) then []
    else ["Field " ++ place ++ " renamed to " ++ name.text]
  return match resolved with
    | .ok type => (renamed, [type])
    | .error error => (("Model " ++ place ++ ": " ++ error.message) :: renamed, [])

/-- The remarks on the members of a composition: references to models that are not registered. -/
def compositionRemarks (generator : Generator) (model : Model) : List String :=
  match model.composition with
  | none => []
  | some composition => composition.members.filterMap fun member =>
    match member with
    | .reference name =>
      if generator.types.isRegistered name then none
      else some ("Model " ++ model.name ++ " composes unregistered model " ++ name)
    | _ => none

/-- The remarks on a model and the types of its properties. -/
def modelRemarks (generator : Generator) (model : Model) :
    Report InvalidMapping (List String × List GoType) := do
  let fields ← model.fields.mapM (generator.fieldRemarks model)
  return (fields.flatMap Prod.fst ++ generator.compositionRemarks model, fields.flatMap Prod.snd)

/-- One remark for each template that is not there. -/
def templateRemarks (generator : Generator) : List String :=
  ([modelTemplateName, importsTemplateName].filter (!generator.templates.contains ·)).map
    fun name => "Template " ++ name ++ " not found"

/-- The remarks on models and settings before a run. -/
def remarks (generator : Generator) (models : List Model) :
    Report InvalidMapping (List String) := do
  let found ← models.mapM generator.modelRemarks
  return structuralRemarks models ++ generator.settings.remarks ++ found.flatMap Prod.fst ++
    typeHints (found.flatMap Prod.snd) ++ generator.templateRemarks

/-- The extension of Go files. -/
def fileExtension : String := ".go"

/-- The generator as a target of runs. -/
def target (generator : Generator) : Target GoModel GoApi where
  language := "go"
  fileExtension := fileExtension
  remarks models := (generator.remarks models).mapError .mapping
  processModel model := (generator.processModel model).mapError .mapping
  processOperations group operations :=
    (generator.processOperations group operations).mapError .mapping

/-- A run over models and groups of operations. The models are registered first and stay so. -/
def generate (generator : Generator) (models : List Model)
    (groups : Table String (List Operation)) :
    Generator × Report GenerationFault (Generation GoModel GoApi) :=
  let registered := generator.register models
  (registered, registered.target.run models groups)

end Generator

end GoBindings
