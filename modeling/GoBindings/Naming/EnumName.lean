import GoBindings.Naming.ModelName
import GoBindings.Naming.SymbolName

/-!
# Names of enumerations

A constant is named in capitals after its value. Numbers spell out their signs and points behind an
underscore, values made of one symbol take the word for it, and values without anything to name them
by are called `EMPTY`. The type of an inline enumeration is named in capitals after its property.
-/

namespace GoBindings

/-- The name of a constant whose value holds nothing to name it by. -/
def emptyEnumName : String := "EMPTY"

/-- What stands before a name made of a number. -/
def numberStart : String := "_"

/-- The signs and the point of a number with their spelling in a name, in the order in which they
are replaced. -/
def numberSpellings : List (Char × String) := [('-', "MINUS_"), ('+', "PLUS_"), ('.', "_DOT_")]

/-- A character spelt out, if it is the one that has the word. -/
def spellChar (symbol : Char) (word : String) (c : Char) : List Char :=
  if c = symbol then word.toList else [c]

/-- A number with its signs and points spelt out, one kind after the other. -/
def spellNumber (value : String) : String :=
  numberSpellings.foldl (fun spelt entry => Text.replaceChars (spellChar entry.1 entry.2) spelt)
    value

/-- The constant name of a number; a name of that form is kept. -/
def numberEnumName (value : String) : String :=
  if Text.startsWith numberStart value then value else numberStart ++ spellNumber value

/-- Whether a value consists of capitals, digits and underscores, with an optional line end. -/
def isUpperSnakeLine (value : String) : Bool :=
  let line := match value.toList.reverse with
    | '\n' :: rest => rest
    | s => s
  !line.isEmpty && line.all fun c => c.isUpper || c.isDigit || c == '_'

/-- The letters and digits of a text value in capitals, without underscores at the ends. -/
def enumBody (value : String) : String :=
  Text.trim (· == '_')
    (if isUpperSnakeLine value then value else sanitize (Text.upper (snake value)))

/-- The constant name of a text value. -/
def textEnumName (reserved : ReservedWords) (value : String) : Named Label :=
  let body := enumBody value
  if body.isEmpty then .kept emptyEnumName
  else if reserved.isReserved body then
    let escaped := reserved.escape body
    .corrected escaped
      (value ++ " (reserved word) cannot be used as enum value. Renamed to " ++ escaped.text)
  else if startsWithDigit body then .kept (numberStart ++ body)
  else .kept body

/-- The constant name computed for a value of a type. -/
def enumConstantName (reserved : ReservedWords) (value datatype : String) : Named Label :=
  if value.isEmpty then .kept emptyEnumName
  else if GoWords.isUnquotedType datatype then .kept (numberEnumName value)
  else
    match symbolName value with
    | some word => .kept (Text.upper word)
    | none => textEnumName reserved value

/-- A text without its empty brackets, found from left to right. -/
def dropEmptyBrackets (s : String) : String := String.ofList (Chars.dropEmptyBrackets s.toList)

/-- The enumeration type name made from a type name. -/
def enumTypeNameOfModel (modelName : String) : String :=
  let name := dropEmptyBrackets (Text.upper (snake modelName))
  if startsWithDigit name then numberStart ++ name else name

namespace Naming

/-- The name of a constant for a value of a type. -/
def enumConstantName (naming : Naming) (value datatype : String) : Report InvalidMapping Label :=
  overriddenBy naming.settings.enumNameMapping value
    (GoBindings.enumConstantName naming.reserved value datatype).report

/-- The name of the type of an inline enumeration. -/
def enumTypeName (naming : Naming) (raw : String) : Report InvalidMapping Label :=
  overriddenBy naming.settings.enumNameMapping raw do
    let modelName ← naming.modelTypeName raw
    return .ofText (enumTypeNameOfModel modelName)

end Naming

end GoBindings
