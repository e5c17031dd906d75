import GoBindings.Naming.Basic
import GoBindings.Naming.Sanitize

/-!
# Field and parameter names

A field is named in camel case, except that a name written in capitals stays as it is. A parameter
has the name of the field with a small first letter. Names that Go takes are escaped, names that
begin with a digit and names without letters get a word of their own, and the name of the field for
unmodelled properties is kept free.
-/

namespace GoBindings

/-- Whether a body is written in capitals and underscores and holds a letter. -/
def isAllCapitals (body : String) : Bool :=
  body.toList.all (fun c => c.isUpper || c == '_') && body.toList.any Char.isUpper

/-- The field of generated models that holds properties without a field of their own. -/
def additionalPropertiesField : String := "AdditionalProperties"

/-- What is put before a field name that begins with a digit. -/
def digitFieldStart : String := "Var"

/-- The name of a field whose name holds nothing to name it by. -/
def emptyFieldName : String := "Empty"

namespace ReservedWords

/-- A name escaped if it is reserved, the correction announced for a use of the name. -/
def avoid (reserved : ReservedWords) (use name : String) : Named Label :=
  if reserved.isReserved name then
    let escaped := reserved.escape name
    .corrected escaped
      (name ++ " (reserved word) cannot be used as " ++ use ++ ". Renamed to " ++ escaped.text)
  else .kept name

end ReservedWords

/-- The name made legal where it begins with a digit, and moved off the field for unmodelled
properties. -/
def finishFieldName (name : String) : String :=
  let name := if startsWithDigit name then digitFieldStart ++ name else name
  if name = additionalPropertiesField then name ++ "Field" else name

/-- The field name computed from the name of a property. -/
def fieldName (reserved : ReservedWords) (raw : String) : Named Label :=
  let body := sanitize raw
  if isAllCapitals body then reserved.avoid "variable name" body
  else
    let camelized := camel body
    if camelized.isEmpty then .kept emptyFieldName
    else (reserved.avoid "variable name" camelized).map (·.mapText finishFieldName)

/-- The parameter name computed from a field name. -/
def parameterNameOfField (reserved : ReservedWords) (field : String) : Named String :=
  let name := lowerCamel field
  if reserved.isReserved name then
    .corrected (name ++ "_")
      (name ++ " (reserved word) cannot be used as parameter name. Renamed to " ++ name ++ "_")
  else .kept name

/-- A parameter name with a capital first letter. -/
def exportedName (name : String) : String := Text.capitalize name

namespace Naming

/-- The name of the field for a property. -/
def fieldName (naming : Naming) (raw : String) : Report InvalidMapping Label :=
  overriddenBy naming.settings.nameMapping raw (GoBindings.fieldName naming.reserved raw).report

/-- The name of a parameter. -/
def parameterName (naming : Naming) (raw : String) : Report InvalidMapping Label :=
  overriddenBy naming.settings.parameterNameMapping raw do
    let field ← naming.fieldName raw
    (parameterNameOfField naming.reserved field.text).label

end Naming

end GoBindings
