import GoBindings.GoType
import GoBindings.ImportSet
import GoBindings.Schema

/-!
# Imports of a file

The imports of a generated file follow from the types that stand in it and from what its code calls.
Paths that came with the description go first, those of the own package are dropped, and the table
of replacements is applied last.
-/

namespace GoBindings

/-- The package for replacing text in paths. -/
def stringsImport : String := "strings"

/-- The package for walking over values. -/
def reflectImport : String := "reflect"

/-- The package for formatting values. -/
def fmtImport : String := "fmt"

/-- The package that validates values. -/
def validatorImport : String := "gopkg.in/validator.v2"

/-- The collection format in which a parameter is given once for each value. -/
def multiFormat : String := "multi"

/-- The set with the packages of a type. -/
def ImportSet.addType (imports : ImportSet) (type : GoType) : ImportSet :=
  imports.addAll (type.sortedImports.map .ofText)

/-- The set with the packages of several types. -/
def ImportSet.addTypes (imports : ImportSet) (types : List GoType) : ImportSet :=
  types.foldl ImportSet.addType imports

/-- What the imports of a model file depend on besides its types. -/
structure ModelImportOptions where
  /-- Paths that came with the model. -/
  existing : List Label := []
  /-- The package of the models. -/
  modelPackage : String := ""
  /-- Whether the model is an enumeration. -/
  isEnum : Bool := false
  /-- Whether the model is one of several others. -/
  hasOneOf : Bool := false
  /-- Whether enumerations import the formatting package. -/
  enumFmtImport : Bool := false
  /-- Whether models get an unmarshaling helper. -/
  generateUnmarshalJson : Bool := true
  /-- Replacements of paths. -/
  importMapping : Table Label (List Label) := Table.empty

/-- The imports of a model file with the given types in it. -/
def modelImports (types : List GoType) (options : ModelImportOptions) : ImportSet :=
  let imports := (ImportSet.ofList options.existing).dropUnder options.modelPackage
  let imports := imports.addTypes types
  let imports :=
    if options.isEnum && options.enumFmtImport then imports.add fmtImport else imports
  let imports :=
    if options.hasOneOf && options.generateUnmarshalJson then imports.add validatorImport
    else imports
  imports.expanded options.importMapping

/-- An operation with the types of its parameters and of its answer. -/
structure TypedOperation where
  /-- The operation. -/
  operation : Operation
  /-- The types of the parameters in order. -/
  parameterTypes : List GoType
  /-- The type of the answer. -/
  returnType : Option GoType

/-- The set with what one parameter needs. -/
def ImportSet.addParameter (imports : ImportSet) (parameter : Parameter × GoType) : ImportSet :=
  let imports := imports.addType parameter.2
  if parameter.1.collectionFormat = some multiFormat then imports.add reflectImport else imports

/-- The set with what one operation needs. -/
def ImportSet.addOperation (imports : ImportSet) (typed : TypedOperation) : ImportSet :=
  let imports := imports.addTypes typed.returnType.toList
  (typed.operation.parameters.zip typed.parameterTypes).foldl ImportSet.addParameter imports

/-- Whether an operation puts a parameter into its path. -/
def Operation.hasPathParameter (operation : Operation) : Bool :=
  operation.parameters.any (·.location == .path)

/-- The imports of an interface file with the given operations in it. -/
def operationImports (operations : List TypedOperation) (existing : List Label := [])
    (apiPackage : String := "") (importMapping : Table Label (List Label) := Table.empty) :
    ImportSet :=
  let imports := (ImportSet.ofList existing).dropUnder apiPackage
  let imports :=
    if operations.any (·.operation.hasPathParameter) then imports.add stringsImport else imports
  (operations.foldl ImportSet.addOperation imports).expanded importMapping

end GoBindings
