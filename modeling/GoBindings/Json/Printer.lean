import GoBindings.Json.Value

/-!
# Writing JSON

A value is written on one line, or spread over lines with an indentation for each level. Characters
beyond ASCII stand as themselves; only quotation marks, backslashes and control characters are
escaped.
-/

namespace GoBindings.Json

/-- The written form of a character inside quotes. -/
def escapeChar (c : Char) : List Char :=
  if c = '"' then ['\\', '"']
  else if c = '\\' then ['\\', '\\']
  else if c = '\n' then ['\\', 'n']
  else if c = '\r' then ['\\', 'r']
  else if c = '\t' then ['\\', 't']
  else if c = '\x08' then ['\\', 'b']
  else if c = '\x0C' then ['\\', 'f']
  else if c.toNat < 0x20 then
    ['\\', 'u', '0', '0', Nat.digitChar (c.toNat / 16), Nat.digitChar (c.toNat % 16)]
  else [c]

/-- A text in quotes. -/
def quote (text : String) : String :=
  "\"" ++ String.ofList (text.toList.flatMap escapeChar) ++ "\""

/-- Decimals are positional from four places after the point up to sixteen before it. -/
def decimalStyle : Decimal.Style where
  minPositional := -4
  maxPositional := 15
  infinity := "Infinity"
  undefined := "NaN"

/-- The written form of a value that holds no others. -/
def scalarText : Json → String
  | .null => "null"
  | .bool true => "true"
  | .bool false => "false"
  | .integer value => toString value
  | .decimal value => value.write decimalStyle
  | .string value => quote value
  | .array _ => "[]"
  | .object _ => "\x7b\x7d"

mutual

/-- A value on one line. -/
def compact : Json → String
  | .array items => "[" ++ ",".intercalate (compactItems items) ++ "]"
  | .object members => "\x7b" ++ ",".intercalate (compactMembers members) ++ "\x7d"
  | value => scalarText value

/-- Items on one line each. -/
def compactItems : List Json → List String
  | [] => []
  | item :: rest => compact item :: compactItems rest

/-- Members on one line each. -/
def compactMembers : List (String × Json) → List String
  | [] => []
  | (key, value) :: rest => (quote key ++ ":" ++ compact value) :: compactMembers rest

end

/-- The start of a line at a level of nesting, two blanks for each. -/
def lineStart (level : Nat) : String := "\n" ++ String.ofList (List.replicate (2 * level) ' ')

/-- Entries between brackets, each on a line of its own. -/
def spread (level : Nat) (opening closing : String) (entries : List String) : String :=
  opening ++ lineStart (level + 1) ++ ("," ++ lineStart (level + 1)).intercalate entries ++
    lineStart level ++ closing

mutual

/-- A value at a level of nesting, one item or member a line. -/
def pretty (level : Nat) : Json → String
  | .array (item :: rest) => spread level "[" "]" (prettyItems (level + 1) (item :: rest))
  | .object (member :: rest) =>
    spread level "\x7b" "\x7d" (prettyMembers (level + 1) (member :: rest))
  | value => scalarText value

/-- Items at a level of nesting. -/
def prettyItems (level : Nat) : List Json → List String
  | [] => []
  | item :: rest => pretty level item :: prettyItems level rest

/-- Members at a level of nesting. -/
def prettyMembers (level : Nat) : List (String × Json) → List String
  | [] => []
  | (key, value) :: rest => (quote key ++ ": " ++ pretty level value) :: prettyMembers level rest

end

end GoBindings.Json
