import GoBindings.GoType
import GoBindings.Naming.ModelName
import GoBindings.Schema

/-!
# Resolution of schemas

Every schema has a Go type, except that a reference must name a registered model. Primitives are
looked up in a table of types, an unknown token counts as the name of a model, and a shape that is
nothing of the kind falls back to a value of any type with a warning.
-/

namespace GoBindings

/-- The types of the primitive tokens unless the settings say otherwise. -/
def defaultTypes : List (String × String) :=
  [("integer", "int32"), ("long", "int64"), ("number", "float32"), ("float", "float32"),
   ("double", "float64"), ("decimal", "float64"), ("boolean", "bool"), ("string", "string"),
   ("UUID", "string"), ("uuid", "string"), ("URI", "string"), ("uri", "string"),
   ("password", "string"), ("date", "time.Time"), ("date-time", "time.Time"),
   ("DateTime", "time.Time"), ("ByteArray", "string"), ("byte", "string"),
   ("File", "io.ReadCloser"), ("file", "io.ReadCloser"), ("binary", "io.ReadCloser"),
   ("null", nilDeclaration), ("object", freeFormDeclaration), ("AnyType", anyDeclaration)]

/-- The table of types under some overrides, none of which may be blank. -/
def typeTable (overrides : Table Label Label) : Except InvalidMapping (Table Label Label) :=
  let defaults := defaultTypes.map fun (token, type) => (Label.ofText token, Label.ofText type)
  match overrides.entries.find? (·.2.isBlank) with
  | some (token, _) => .error ⟨token, .emptyType⟩
  | none => .ok ((Table.ofList defaults).update overrides)

/-- What the resolution of schemas depends on. -/
structure TypeResolver where
  /-- The rules for names of models. -/
  naming : Naming
  /-- The types of the primitive tokens. -/
  types : Table Label Label
  /-- The names of the models that may be referred to. -/
  models : List String := []

namespace TypeResolver

/-- The resolver with the types of the settings and no models. -/
def ofNaming (naming : Naming) (overrides : Table Label Label := naming.settings.typeMapping) :
    Except InvalidMapping TypeResolver :=
  (typeTable overrides).map fun types => { naming, types }

/-- The resolver with a further model. -/
def register (resolver : TypeResolver) (name : String) : TypeResolver :=
  { resolver with models := resolver.models ++ [name] }

/-- The resolver with further models. -/
def registerAll (resolver : TypeResolver) (names : List String) : TypeResolver :=
  { resolver with models := resolver.models ++ names }

/-- Whether a model may be referred to. -/
def isRegistered (resolver : TypeResolver) (name : String) : Bool := resolver.models.contains name

/-- The declaration that the table gives for a token: its entry, or the token itself where it is
the type of an entry or a primitive of the language. -/
def declaration? (resolver : TypeResolver) (token : String) : Option String :=
  match resolver.types.find? (.ofText token) with
  | some type => some type.text
  | none =>
    if resolver.types.values.contains (.ofText token) || languagePrimitives.contains token then
      some token
    else none

/-- The type of a primitive token. -/
def resolvePrimitive (resolver : TypeResolver) (token : String) : Report InvalidMapping GoType :=
  match resolver.declaration? token with
  | some name => pure (.ofDeclaration name)
  | none => GoType.model <$> resolver.naming.modelTypeName token

/-- The type of a reference to a model. -/
def resolveReference (resolver : TypeResolver) (name : String) : Report InvalidMapping GoType :=
  if resolver.isRegistered name then GoType.model <$> resolver.naming.modelTypeName name
  else .fail ⟨name, .unregisteredModel⟩

/-- The type of a composition: the model it is, or a value of any type. -/
def resolveComposition (resolver : TypeResolver) (kind : CompositionKind)
    (modelName : Option String) : Report InvalidMapping GoType :=
  match modelName.filter (!·.isEmpty) with
  | some name => GoType.model <$> resolver.naming.modelTypeName name
  | none =>
    pure (GoType.any.withHint
      ("Anonymous " ++ kind.name ++ " composition, using " ++ anyDeclaration))

/-- The type of a shape that is no schema. -/
def resolveUnknown (text : String) : Report InvalidMapping GoType := do
  .warn ("Unknown schema type " ++ Text.Quoted.encode text ++ ", using fallback: "
    ++ anyDeclaration)
  return GoType.any.withHint ("Unknown schema type, using fallback: " ++ anyDeclaration)

/-- The type of a schema. -/
def resolve (resolver : TypeResolver) : Schema → Report InvalidMapping GoType
  | .unspecified => pure .any
  | .primitive token => resolver.resolvePrimitive token
  | .array .unspecified _ => pure (.slice .any anyDeclaration)
  | .array element nullable => do
    let type ← resolver.resolve element
    return .slice type (if nullable then "*" ++ type.name else type.name)
  | .map value container => do
    let type ← resolver.resolve value
    return .mapOf ((container.filter (!·.isEmpty)).getD "map") type
  | .reference name => resolver.resolveReference name
  | .freeForm => pure .freeForm
  | .any => pure .any
  | .enum backing _ => resolver.resolvePrimitive backing
  | .composed kind _ modelName => resolver.resolveComposition kind modelName
  | .unknown text => resolveUnknown text

/-- The declaration of the type of a schema. -/
def declaration (resolver : TypeResolver) (schema : Schema) : Report InvalidMapping String :=
  GoType.name <$> resolver.resolve schema

/-- The types of several schemas in order. -/
def resolveAll (resolver : TypeResolver) (schemas : List Schema) :
    Report InvalidMapping (List GoType) :=
  schemas.mapM resolver.resolve

/-- The declarations of the members of a composition without the null, each once, in the order in
which they first occur. -/
def memberDeclarations (resolver : TypeResolver) (members : List Schema) :
    Report InvalidMapping (List String) := do
  let declarations ← (members.filter (!·.isNull)).mapM resolver.declaration
  return declarations.eraseDups

end TypeResolver

/-- The members of a composition without the null, and whether there was one. -/
def splitNull (members : List Schema) : List Schema × Bool :=
  (members.filter (!·.isNull), members.any Schema.isNull)

/-- All hints of some types in order. -/
def typeHints (types : List GoType) : List String := types.flatMap GoType.hints

end GoBindings
