import GoBindings.Text.Segments

/-!
# Go types

A resolved type is its declaration together with what the rest of the generator asks about it: the
packages it needs, whether it can be nil, whether it is a container. The declaration is the text
that stands in the generated code.
-/

namespace GoBindings

/-- The declaration of a value of any type. -/
def anyDeclaration : String := "interface\x7b\x7d"

/-- The declaration of an object of unknown fields. -/
def freeFormDeclaration : String := "map[string]interface\x7b\x7d"

/-- The declaration of the type of the absent value. -/
def nilDeclaration : String := "nil"

/-- A declaration without the stars before it. -/
def bareDeclaration (declaration : String) : String :=
  String.ofList (declaration.toList.dropWhile (· == '*'))

/-- A resolved Go type. -/
structure GoType where
  /-- The declaration. -/
  name : String
  /-- The declaration without pointer. -/
  baseName : String
  /-- Whether the declaration is a pointer. -/
  isPointer : Bool := false
  /-- The packages that the declaration needs, in any order. -/
  imports : List String := []
  /-- Whether nil is a value. -/
  isNilable : Bool := false
  /-- Whether the type is a slice or a map. -/
  isContainer : Bool := false
  /-- Whether the type holds an object of unknown fields. -/
  isFreeForm : Bool := false
  /-- Whether the type holds a value of any type. -/
  isAnyType : Bool := false
  /-- Whether the type is a generated model. -/
  isModel : Bool := false
  /-- The type of the elements of a container. -/
  element : Option GoType := none
  /-- What a reader should know about how the type was found. -/
  hints : List String := []
  deriving Inhabited, Repr

namespace GoType

/-- The type with a declaration and nothing else known about it. -/
def ofName (name : String) : GoType := { name, baseName := bareDeclaration name }

/-- The type with its base name read off the declaration where none is given. -/
def fillBaseName (type : GoType) : GoType :=
  if type.baseName.isEmpty then { type with baseName := bareDeclaration type.name } else type

/-- Whether the value itself is returned by accessors. Containers, free-form objects and arbitrary
values that are no models have no wrapper. -/
def isContainerLike (type : GoType) : Bool :=
  type.isContainer || type.isFreeForm || (type.isAnyType && !type.isModel)

/-- The packages that the declaration needs, each once and in order of code points. -/
def sortedImports (type : GoType) : List String := type.imports.mergeSort.eraseDups

/-- The type with a further hint. -/
def withHint (type : GoType) (hint : String) : GoType := { type with hints := type.hints ++ [hint] }

/-- The type of a value of any type. -/
def any : GoType := { ofName anyDeclaration with isNilable := true, isAnyType := true }

/-- The type of an object of unknown fields. -/
def freeForm : GoType := { ofName freeFormDeclaration with isNilable := true, isFreeForm := true }

/-- The type of a generated model. -/
def model (name : String) : GoType := { ofName name with isModel := true }

/-- A slice. The declaration of the elements may differ from their type by a pointer. -/
def slice (element : GoType) (elementDeclaration : String) : GoType :=
  { ofName ("[]" ++ elementDeclaration) with
    imports := element.imports, isNilable := true, isContainer := true, element := some element }

/-- A map from texts, with the spelling of the outer type. -/
def mapOf (container : String) (value : GoType) : GoType :=
  { ofName (container ++ "[string]" ++ value.name) with
    imports := value.imports, isNilable := true, isContainer := true, element := some value }

end GoType

/-- The types that are always there. -/
def languagePrimitives : List String :=
  ["string", "bool", "uint", "uint32", "uint64", "int", "int32", "int64", "float32", "float64",
   "complex64", "complex128", "rune", "byte", freeFormDeclaration, anyDeclaration]

/-- Whether a type may need an import. Containers and primitives do not. -/
def needsImport (name : String) : Bool :=
  name != "map" && name != "array" && !languagePrimitives.contains name

/-- The package of a type, read off its qualifier (`*os.File` gives `os`). -/
def packageOf? (name : String) : Option String :=
  let bare := name.toList.dropWhile (· == '*')
  if bare.contains '.' && !bare.contains '[' then
    some (String.ofList (bare.takeWhile (· != '.')))
  else none

/-- The type of a declaration that a type table gives. -/
def GoType.ofDeclaration (name : String) : GoType :=
  let pointer := Text.startsWith "*" name
  { ofName name with
    imports := if needsImport name then ((packageOf? name).filter (!·.isEmpty)).toList else []
    isNilable := name == anyDeclaration || name == freeFormDeclaration || name == nilDeclaration
      || pointer
    isPointer := pointer
    isFreeForm := name == freeFormDeclaration
    isAnyType := name == anyDeclaration }

end GoBindings
