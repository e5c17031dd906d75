import GoBindings.GoWords
import GoBindings.Text.Escapes

/-!
# Literals and comments

Texts that come from a description are made harmless before they stand in Go code: in a string
literal, behind quotes that must not end early, and in a comment.
-/

namespace GoBindings

/-- The escapes of interpreted literals in the order in which they are made. -/
def literalEscapes : List (Char × Char) :=
  [('\\', '\\'), ('"', '"'), ('\n', 'n'), ('\r', 'r'), ('\t', 't')]

/-- The body of an interpreted literal that denotes a text. -/
def escapeText (value : String) : String := Text.escape literalEscapes value

/-- A text without quotation marks. -/
def dropQuotationMarks (value : String) : String :=
  String.ofList (value.toList.filter (· != '"'))

/-- Whether a text begins with a character. -/
def Chars.startsWithChar (c : Char) : List Char → Bool
  | [] => false
  | d :: _ => d == c

/-- An underscore between the two characters of every pair of the given ones. -/
def Chars.separatePair (first second : Char) : List Char → List Char
  | [] => []
  | c :: rest =>
    if c == first && startsWithChar second rest then c :: '_' :: separatePair first second rest
    else c :: separatePair first second rest

/-- A text whose comment delimiters are broken, so that it can stand in a comment. -/
def breakCommentDelimiters (value : String) : String :=
  String.ofList (Chars.separatePair '/' '*' (Chars.separatePair '*' '/' value.toList))

/-- The literal of an enumerated value: numbers and truth values as they are, texts in quotes. -/
def enumLiteral (value datatype : String) : String :=
  if GoWords.isUnquotedType datatype then value else "\"" ++ escapeText value ++ "\""

/-- The name of an enumerated value that is the default of its type. -/
def enumDefaultName (value datatype : String) : String := datatype ++ "_" ++ value

end GoBindings
