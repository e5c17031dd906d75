import GoBindings.Naming.EnumName
import GoBindings.Naming.FieldName
import GoBindings.Naming.FileName
import GoBindings.Naming.OperationName

/-!
# Names by category

One entry for all naming rules. A request says what a name is for; it may give the key under which
an override is looked up before the rule of its category runs.
-/

namespace GoBindings

/-- What a name is for. -/
inductive NameCategory where
  | variable
  | parameter
  | modelName
  | modelFileName
  | operationFileName
  | operationTestFileName
  | enumConstant
  | enumTypeName
  | operation
  deriving DecidableEq, Repr

/-- The category with a given spelling. -/
def NameCategory.ofName? : String → Option NameCategory
  | "variable" => some .variable
  | "parameter" => some .parameter
  | "model_name" => some .modelName
  | "model_file_name" => some .modelFileName
  | "operation_file_name" => some .operationFileName
  | "operation_test_file_name" => some .operationTestFileName
  | "enum_constant" => some .enumConstant
  | "enum_type_name" => some .enumTypeName
  | "operation" => some .operation
  | _ => none

/-- A request for a name. -/
structure NameRequest where
  /-- The name to start from. -/
  rawName : String
  /-- What the name is for. -/
  category : NameCategory
  /-- The key of an override that goes before the rule. -/
  overrideKey : Option String := none
  /-- The type of the value, for constants. -/
  datatype : Option String := none

/-- The type of the values of a constant: text where none is given. -/
def NameRequest.constantType (request : NameRequest) : String :=
  match request.datatype with
  | some datatype => if datatype.isEmpty then "string" else datatype
  | none => "string"

namespace Naming

/-- The name that the rule of a category gives. -/
def byRule (naming : Naming) (request : NameRequest) : Report InvalidMapping Label :=
  match request.category with
  | .variable => naming.fieldName request.rawName
  | .parameter => naming.parameterName request.rawName
  | .modelName => naming.modelName request.rawName
  | .modelFileName => Label.ofText <$> naming.modelFileName request.rawName
  | .operationFileName => (apiFileName request.rawName).label
  | .operationTestFileName => (apiTestFileName request.rawName).label
  | .enumConstant => naming.enumConstantName request.rawName request.constantType
  | .enumTypeName => naming.enumTypeName request.rawName
  | .operation => (naming.operationName request.rawName).label

/-- The table that an override key of a category is looked up in. -/
def overrideTable? (naming : Naming) : NameCategory → Option (Table Label Label)
  | .variable => some naming.settings.nameMapping
  | .parameter => some naming.settings.parameterNameMapping
  | .modelName | .modelFileName => some naming.settings.modelNameMapping
  | .enumConstant | .enumTypeName => some naming.settings.enumNameMapping
  | .operationFileName | .operationTestFileName | .operation => none

/-- The name for a request: the override of its key, if there is one, and else what the rule of
its category gives. -/
def resolve (naming : Naming) (request : NameRequest) : Report InvalidMapping Label :=
  match request.overrideKey, naming.overrideTable? request.category with
  | some key, some table => overriddenBy table key (naming.byRule request)
  | _, _ => naming.byRule request

/-- The name for a request whose category is given by its spelling. -/
def resolveNamed (naming : Naming) (category rawName : String)
    (overrideKey datatype : Option String) : Report InvalidMapping Label :=
  match NameCategory.ofName? category with
  | some category => naming.resolve ⟨rawName, category, overrideKey, datatype⟩
  | none => .fail ⟨rawName, .unsupportedCategory category⟩

end Naming

end GoBindings
