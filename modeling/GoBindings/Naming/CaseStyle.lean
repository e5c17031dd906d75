import GoBindings.Text.Case
import GoBindings.Text.Segments
import GoBindings.Unicode.Digit

/-!
# Case styles

Names change between `snake_case` and `CamelCase`. Snake casing puts an underscore at the two kinds
of word boundary, before the capital that ends a run of capitals and begins a word of small letters,
and between a small letter or digit and a capital. Camel casing drops the underscores and
capitalises what followed them.
-/

namespace GoBindings

namespace Chars

/-- Whether a text begins with a capitalised word: a capital and two small letters. -/
def startsWord : List Char → Bool
  | a :: b :: c :: _ => a.isUpper && b.isLower && c.isLower
  | _ => false

/-- An underscore between a capital and a capitalised word, as in `HTTP_Server`. -/
def breakAcronyms : List Char → List Char
  | [] => []
  | c :: rest =>
    if c.isUpper && startsWord rest then c :: '_' :: breakAcronyms rest
    else c :: breakAcronyms rest

/-- Whether a text begins with a capital. -/
def startsCapital : List Char → Bool
  | [] => false
  | c :: _ => c.isUpper

/-- An underscore between a small letter or decimal digit and a capital, as in `pet_Id`. -/
def breakWords : List Char → List Char
  | [] => []
  | c :: rest =>
    if (c.isLower || Unicode.isDecimalDigit c) && startsCapital rest then
      c :: '_' :: breakWords rest
    else c :: breakWords rest

/-- Hyphens and spaces count as underscores. -/
def toUnderscore (c : Char) : Char := if c = '-' || c = ' ' then '_' else c

/-- The snake case of a name. -/
def snake (s : List Char) : List Char :=
  lower ((breakWords (breakAcronyms s)).map toUnderscore)

/-- The camel case of a name: its parts between underscores, each with its first letter
capitalised and the rest as it is. -/
def camel (s : List Char) : List Char :=
  (segments '_' s).flatMap capitalize

/-- The camel case of a name with a small first letter. -/
def lowerCamel (s : List Char) : List Char := uncapitalize (camel s)

/-- Whether a text begins with a digit of some script. -/
def startsWithDigit : List Char → Bool
  | [] => false
  | c :: _ => Unicode.isDigit c

end Chars

/-- The snake case of a name (`PetAPIResponse` gives `pet_api_response`). -/
def snake (s : String) : String := String.ofList (Chars.snake s.toList)

/-- The camel case of a name (`phone_number` gives `PhoneNumber`). -/
def camel (s : String) : String := String.ofList (Chars.camel s.toList)

/-- The camel case of a name with a small first letter. -/
def lowerCamel (s : String) : String := String.ofList (Chars.lowerCamel s.toList)

/-- Whether a name begins with a digit of some script. -/
def startsWithDigit (s : String) : Bool := Chars.startsWithDigit s.toList

/-- The characters of the snake case of a name. -/
@[simp] theorem toList_snake (s : String) : (snake s).toList = Chars.snake s.toList := by
  simp [snake]

/-- The characters of the camel case of a name. -/
@[simp] theorem toList_camel (s : String) : (camel s).toList = Chars.camel s.toList := by
  simp [camel]

/-- The characters of the camel case with a small first letter. -/
@[simp] theorem toList_lowerCamel (s : String) :
    (lowerCamel s).toList = Chars.lowerCamel s.toList := by
  simp [lowerCamel]

/-- The styles a name can be written in. -/
inductive CaseStyle where
  /-- As in `user_name`. -/
  | snake
  /-- As in `userName`. -/
  | camel
  /-- As in `UserName`. -/
  | pascal
  /-- As in `USER_NAME`. -/
  | screamingSnake
  deriving DecidableEq, Repr

namespace CaseStyle

/-- The style with a given spelling. -/
def ofName? : String → Option CaseStyle
  | "snake" => some .snake
  | "camel" => some .camel
  | "pascal" => some .pascal
  | "screaming_snake" => some .screamingSnake
  | _ => none

/-- A name in a style; every style starts from the snake case. -/
def convert (style : CaseStyle) (name : String) : String :=
  match style with
  | .snake => GoBindings.snake name
  | .camel => lowerCamel (GoBindings.snake name)
  | .pascal => GoBindings.camel (GoBindings.snake name)
  | .screamingSnake => Text.upper (GoBindings.snake name)

end CaseStyle

end GoBindings
