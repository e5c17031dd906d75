import GoBindings.Json.Value
import GoBindings.Text.Quoted

/-!
# Values in running text

A value that stands where a text belongs is shown there. A text is shown as itself, any other value
by its kind; inside lists and objects texts are quoted, so that it is plain where they end.
-/

namespace GoBindings.Json

/-- Decimals in running text are positional where those of files are; what is beyond all numbers has
a short word. -/
def shownDecimals : Decimal.Style where
  minPositional := -4
  maxPositional := 15
  infinity := "inf"
  undefined := "nan"

mutual

/-- A value as it is shown inside another one. -/
def shownInside : Json → String
  | .null => "None"
  | .bool true => "True"
  | .bool false => "False"
  | .integer value => toString value
  | .decimal value => value.write shownDecimals
  | .string value => Text.Quoted.encode value
  | .array items => "[" ++ ", ".intercalate (shownItems items) ++ "]"
  | .object members => "\x7b" ++ ", ".intercalate (shownMembers members) ++ "\x7d"

/-- The items of a list as they are shown. -/
def shownItems : List Json → List String
  | [] => []
  | item :: rest => shownInside item :: shownItems rest

/-- The members of an object as they are shown. -/
def shownMembers : List (String × Json) → List String
  | [] => []
  | (key, value) :: rest =>
    (Text.Quoted.encode key ++ ": " ++ shownInside value) :: shownMembers rest

end

/-- A value as it is shown. -/
def shown : Json → String
  | .string value => value
  | value => shownInside value

end GoBindings.Json
