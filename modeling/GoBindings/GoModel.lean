import GoBindings.GoType
import GoBindings.Label
import GoBindings.Schema
import GoBindings.Settings.Switch

/-!
# Generated models and interface files

What the generator knows about each model and each group of operations once all names, types, tags
and imports are settled. The text of a file follows from these records alone.
-/

namespace GoBindings

/-- A struct field. -/
structure GoField where
  /-- The name in Go. -/
  name : Label
  /-- The name on the wire. -/
  baseName : String
  /-- The declaration of the type. -/
  dataType : String
  /-- The struct tag as a literal. -/
  tag : String
  /-- Whether the property must be present. -/
  required : Bool
  /-- Whether the value may be null. -/
  isNullable : Bool
  /-- Whether accessors return the value itself. -/
  isContainerLike : Bool
  /-- The type. -/
  type : GoType
  /-- The name of the type of an inline enumeration. -/
  enumName : Option Label := none
  /-- A description for readers. -/
  description : Option String := none

/-- A constant of an enumeration. -/
structure GoConstant where
  /-- The name in Go. -/
  name : Label
  /-- The literal of the value. -/
  literal : String
  deriving Repr

/-- A member of a union: the field that holds it and its declaration. -/
structure UnionMember where
  /-- The name of the field. -/
  fieldName : String
  /-- The declaration of the member. -/
  declaration : String
  deriving DecidableEq, Repr

/-- A model with everything its file needs. -/
structure GoModel where
  /-- The type name. -/
  name : String
  /-- The file name without extension. -/
  fileName : String
  /-- The struct fields. -/
  fields : List GoField := []
  /-- Whether the model is an enumeration. -/
  isEnum : Bool := false
  /-- The declaration of the type of the values of an enumeration. -/
  enumDataType : Option String := none
  /-- The constants of an enumeration. -/
  constants : List GoConstant := []
  /-- The declarations of the members of which exactly one holds. -/
  oneOf : List String := []
  /-- The declarations of the members of which some hold. -/
  anyOf : List String := []
  /-- The members of a union with their fields. -/
  members : List UnionMember := []
  /-- Whether a union allows null. -/
  isNullable : Bool := false
  /-- The import paths of the file. -/
  imports : List Label := []
  /-- Whether there is a marshaling helper. -/
  generateMarshalJson : Switch := true
  /-- Whether there is an unmarshaling helper. -/
  generateUnmarshalJson : Switch := true
  /-- A description for readers. -/
  description : Option String := none

/-- A parameter of a method. -/
structure GoParameter where
  /-- The name in Go. -/
  name : String
  /-- The name with a capital first letter. -/
  exportName : String
  /-- The name on the wire. -/
  baseName : String
  /-- The declaration of the type. -/
  dataType : String
  /-- Where the request carries the parameter. -/
  location : ParameterLocation
  /-- Whether it must be given. -/
  required : Bool
  /-- Whether it is given once for each value. -/
  isMulti : Bool
  deriving DecidableEq, Repr

/-- A method. -/
structure GoOperation where
  /-- The name in Go. -/
  nickname : String
  /-- The identifier in the interface description. -/
  operationId : String
  /-- The HTTP method in camel case. -/
  httpMethod : String
  /-- The parameters in order. -/
  parameters : List GoParameter
  /-- The declaration of the answer, where there is one. -/
  returnType : Option String
  deriving DecidableEq, Repr

/-- A group of methods with everything its file needs. -/
structure GoApi where
  /-- The name of the group. -/
  name : String
  /-- The file name without extension. -/
  fileName : String
  /-- The test file name without extension. -/
  testFileName : String
  /-- The methods in order. -/
  operations : List GoOperation
  /-- The import paths of the file. -/
  imports : List Label
  deriving Repr

end GoBindings
