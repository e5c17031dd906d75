import GoBindings.Comment
import GoBindings.GoModel
import GoBindings.Text.Case

/-!
# Model files

The text of the file of a model: package, imports, the description as a comment, and the declaration
of an enumeration, a union or a struct. A description only ever adds comment lines.
-/

namespace GoBindings

namespace ModelFile

/-- A line of a file. -/
def line (text : String) : String := text ++ "\n"

/-- The import declaration: none, a single one, or a block. -/
def importBlock : List Label → String
  | [] => ""
  | [path] => line ("import \"" ++ path.text ++ "\"")
  | paths =>
    line "import (" ++ String.join (paths.map fun path => line ("\t\"" ++ path.text ++ "\""))
      ++ line ")"

/-- A description as a comment behind an indentation; an empty one leaves nothing. -/
def descriptionBlock (indentation : String) (description : Option String) : String :=
  match description.filter (!·.isEmpty) with
  | some text => line (indentation ++ commentLines commentMark text)
  | none => ""

/-- The line of a constant of an enumeration. -/
def constantLine (start modelName : String) (constant : GoConstant) : String :=
  line ("\t" ++ start ++ constant.name.text ++ " " ++ modelName ++ " = " ++ constant.literal)

/-- The declaration of an enumeration. -/
def enumBlock (classPrefix : Bool) (model : GoModel) : String :=
  let start := if classPrefix then Text.upper model.name ++ "_" else ""
  line ("type " ++ model.name ++ " " ++ model.enumDataType.getD "") ++ line "" ++
    line ("// List of " ++ model.name) ++ line "const (" ++
    String.join (model.constants.map (constantLine start model.name)) ++ line ")"

/-- A struct declaration with the given lines in it. -/
def structBlock (name : String) (lines : List String) : String :=
  line ("type " ++ name ++ " struct \x7b") ++ String.join lines ++ line "\x7d"

/-- The line of a member of a union. -/
def memberLine (member : UnionMember) : String :=
  line ("\t" ++ member.fieldName ++ " *" ++ member.declaration)

/-- The declaration of a field, a nullable one behind a pointer unless its values can be nil. -/
def fieldLine (field : GoField) : String :=
  let star := if field.isNullable && !field.isContainerLike then "*" else ""
  line ("\t" ++ field.name.text ++ " " ++ star ++ field.dataType ++ " " ++ field.tag)

/-- The lines of a field: its description and its declaration. -/
def fieldLines (field : GoField) : String :=
  descriptionBlock "\t" field.description ++ fieldLine field

/-- The declaration of a model. -/
def declaration (classPrefix : Bool) (model : GoModel) : String :=
  if model.isEnum then enumBlock classPrefix model
  else if model.oneOf.isEmpty && model.anyOf.isEmpty then
    structBlock model.name (model.fields.map fieldLines)
  else structBlock model.name (model.members.map memberLine)

/-- The text of the file of a model. -/
def render (packageName : String) (classPrefix : Bool) (model : GoModel) : String :=
  line ("package " ++ packageName) ++ line "" ++ importBlock model.imports ++
    (if model.imports.isEmpty then "" else line "") ++
    descriptionBlock "" model.description ++ declaration classPrefix model

end ModelFile

end GoBindings
