/-!
# Schemas

The shapes of data and the operations of an interface, as a reader of its description hands them
over. Nothing here knows the language that code is generated for.
-/

namespace GoBindings

/-- How the members of a composition combine. -/
inductive CompositionKind where
  /-- A value fits exactly one member. -/
  | oneOf
  /-- A value fits at least one member. -/
  | anyOf
  /-- A value fits every member. -/
  | allOf
  deriving DecidableEq, Repr

/-- The spelling of a kind of composition in an interface description. -/
def CompositionKind.name : CompositionKind → String
  | .oneOf => "oneOf"
  | .anyOf => "anyOf"
  | .allOf => "allOf"

/-- The shape of a value. -/
inductive Schema where
  /-- Nothing is said about the value. -/
  | unspecified
  /-- A primitive named by a token such as `integer` or `date-time`. -/
  | primitive (token : String)
  /-- A sequence of values of one shape; `nullable` allows absent elements. -/
  | array (element : Schema) (nullable : Bool)
  /-- A map from texts; `container` is the spelling of the outer type where the schema names one. -/
  | map (value : Schema) (container : Option String)
  /-- A reference to a named model. -/
  | reference (model : String)
  /-- An object of unknown fields. -/
  | freeForm
  /-- A value of any shape. -/
  | any
  /-- One of the listed values of a primitive. -/
  | enum (backing : String) (values : List String)
  /-- A composition, with its name where it is a model itself. -/
  | composed (kind : CompositionKind) (members : List Schema) (modelName : Option String)
  /-- A shape that is none of these, shown by its text. -/
  | unknown (text : String)
  deriving Inhabited, Repr

/-- Whether a schema is the literal null. -/
def Schema.isNull : Schema → Bool
  | .primitive token => token == "null"
  | _ => false

/-- The values of an enumerated primitive. -/
structure Enumeration where
  /-- The token of the primitive. -/
  backing : String
  /-- The values in order. -/
  values : List String
  deriving DecidableEq, Repr

/-- A combination of member schemas. -/
structure Composition where
  /-- How the members combine. -/
  kind : CompositionKind
  /-- The members in order. -/
  members : List Schema
  /-- The name of the composition where it is a model itself. -/
  modelName : Option String

/-- A property of a model. -/
structure Field where
  /-- The name on the wire. -/
  baseName : String
  /-- The shape of the value. -/
  schema : Schema
  /-- Whether the property must be present. -/
  required : Bool := false
  /-- Whether the value may be null. -/
  nullable : Bool := false
  /-- Whether the property is an attribute in XML. -/
  isXmlAttribute : Bool := false
  /-- A regular expression that the value must match. -/
  pattern : Option String := none
  /-- Further directives for the struct tag. -/
  customTag : Option String := none
  /-- A description for readers. -/
  description : Option String := none

/-- A named model: an object with fields, an enumeration or a composition. -/
structure Model where
  /-- The name in the interface description. -/
  name : String
  /-- The properties in order. -/
  fields : List Field := []
  /-- The enumerated values, for an enumeration. -/
  enumeration : Option Enumeration := none
  /-- The combined schemas, for a composition. -/
  composition : Option Composition := none
  /-- A description for readers. -/
  description : Option String := none
  /-- Import paths that the reader of the description attached. -/
  imports : List String := []

/-- Where a request carries a parameter. -/
inductive ParameterLocation where
  | path
  | query
  | header
  | cookie
  | form
  | body
  deriving DecidableEq, Repr

/-- A parameter of an operation. -/
structure Parameter where
  /-- The name on the wire. -/
  rawName : String
  /-- The shape of the value. -/
  schema : Schema
  /-- Where the request carries it. -/
  location : ParameterLocation := .query
  /-- Whether it must be given. -/
  required : Bool := false
  /-- How several values are joined, such as `csv` or `multi`. -/
  collectionFormat : Option String := none

/-- An operation of the interface. -/
structure Operation where
  /-- The identifier in the interface description. -/
  operationId : String
  /-- The HTTP method as written. -/
  httpMethod : String
  /-- The parameters in order. -/
  parameters : List Parameter := []
  /-- The shape of the answer, where there is one. -/
  returnType : Option Schema := none

end GoBindings
