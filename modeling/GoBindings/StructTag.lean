import GoBindings.Schema
import GoBindings.Text.Escapes

/-!
# Struct tags

A tag tells the libraries of Go how a field is called on the wire and what it must match. It is a
sequence of directives, each a key with a quoted value, wrapped as a Go string literal: a raw one
unless the tag holds the quote of raw literals.
-/

namespace GoBindings

/-- The quote of raw Go literals. -/
def rawQuote : Char := '\x60'

/-- A text without the slash that it may begin with. -/
def dropLeadingSlash : List Char → List Char
  | '/' :: rest => rest
  | s => s

/-- A reversed text without the slash that the text may end with, a line end after it aside. -/
def dropTrailingSlash : List Char → List Char
  | '/' :: rest => rest
  | '\n' :: '/' :: rest => '\n' :: rest
  | s => s

/-- A backslash is written twice, and any other character once. -/
def doubleBackslash (c : Char) : List Char := if c = '\\' then ['\\', '\\'] else [c]

/-- A regular expression as it stands in a tag: without its delimiting slashes, and with every
backslash written twice. -/
def escapePattern (pattern : String) : String :=
  let doubled := pattern.toList.flatMap doubleBackslash
  String.ofList (dropTrailingSlash (dropLeadingSlash doubled).reverse).reverse

/-- The directive that makes a validator match a pattern. -/
def patternDirective (pattern : String) : String :=
  "validate:\"regexp=" ++ escapePattern pattern ++ "\""

/-- The escapes of an interpreted literal around a tag in the order in which they are made. -/
def tagEscapes : List (Char × Char) := [('\\', '\\'), ('"', '"'), ('\n', 'n')]

/-- A tag as a Go string literal. -/
def wrapTag (content : String) : String :=
  if content.toList.contains rawQuote then
    "\"" ++ Text.escape tagEscapes content ++ "\""
  else String.singleton rawQuote ++ content ++ String.singleton rawQuote

/-- The directives of a field, separated by blanks. A custom fragment given here takes the place of
the one of the field. -/
def tagContent (field : Field) (withXml withValidate : Bool)
    (customTag : Option String := none) : String :=
  let json := "json:\"" ++ field.baseName ++ (if field.required then "" else ",omitempty") ++ "\""
  let xml :=
    if withXml then
      [" xml:\"" ++ field.baseName ++ (if field.isXmlAttribute then ",attr" else "") ++ "\""]
    else []
  let validate :=
    if withValidate then field.pattern.toList.map (" " ++ patternDirective ·) else []
  let fragment :=
    ((customTag.or field.customTag).filter (!·.isEmpty)).toList.map (" " ++ ·)
  String.join (json :: xml ++ validate ++ fragment)

/-- The struct tag of a field. -/
def structTag (field : Field) (withXml withValidate : Bool)
    (customTag : Option String := none) : String :=
  wrapTag (tagContent field withXml withValidate customTag)

end GoBindings
