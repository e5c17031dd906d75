import GoBindings.Json.Value
import GoBindings.Table

/-!
# Reading JSON

A reader over the characters of a text. Every function takes what is left of the text and returns
what it read together with the rest, or nothing where the text is not JSON. Values nest, so the
readers of values, items and members call each other; each call takes a character, so the length of
the text bounds their depth.

The names `NaN`, `Infinity` and `-Infinity` are read as numbers. A member that occurs twice keeps
its first place and its last value.
-/

namespace GoBindings.Json

/-- The blanks that may stand between tokens. -/
def isSpace (c : Char) : Bool := c == ' ' || c == '\t' || c == '\n' || c == '\r'

/-- The text after its leading blanks. -/
def skipSpace (s : List Char) : List Char := s.dropWhile isSpace

/-- The text after a fixed word. -/
def readWord (word : List Char) (s : List Char) : Option (List Char) :=
  if word.isPrefixOf s then some (s.drop word.length) else none

/-- The value of a hexadecimal digit. -/
def hexValue? (c : Char) : Option Nat :=
  if c.isDigit then some (c.toNat - '0'.toNat)
  else if 'a' ≤ c ∧ c ≤ 'f' then some (c.toNat - 'a'.toNat + 10)
  else if 'A' ≤ c ∧ c ≤ 'F' then some (c.toNat - 'A'.toNat + 10)
  else none

/-- The code unit of four hexadecimal digits. -/
def readCodeUnit : List Char → Option (Nat × List Char)
  | a :: b :: c :: d :: rest => do
    let a ← hexValue? a
    let b ← hexValue? b
    let c ← hexValue? c
    let d ← hexValue? d
    some (((a * 16 + b) * 16 + c) * 16 + d, rest)
  | _ => none

/-- The first half of a pair of code units for one character. -/
def isHighSurrogate (unit : Nat) : Bool := 0xD800 ≤ unit && unit ≤ 0xDBFF

/-- The second half of a pair of code units for one character. -/
def isLowSurrogate (unit : Nat) : Bool := 0xDC00 ≤ unit && unit ≤ 0xDFFF

/-- The character of a code unit, or the replacement character for half of a pair. -/
def unitChar (unit : Nat) : Char :=
  if isHighSurrogate unit || isLowSurrogate unit then '\uFFFD' else Char.ofNat unit

/-- The character of a `\u` escape, two escapes forming a pair where they can. -/
def readUnicodeEscape (s : List Char) : Option (Char × List Char) := do
  let (high, rest) ← readCodeUnit s
  if isHighSurrogate high then
    match rest with
    | '\\' :: 'u' :: more =>
      match readCodeUnit more with
      | some (low, after) =>
        if isLowSurrogate low then
          some (Char.ofNat (0x10000 + (high - 0xD800) * 0x400 + (low - 0xDC00)), after)
        else some (unitChar high, rest)
      | none => none
    | _ => some (unitChar high, rest)
  else some (unitChar high, rest)

/-- The character of an escape of one letter. -/
def simpleEscape? : Char → Option Char
  | '"' => some '"'
  | '\\' => some '\\'
  | '/' => some '/'
  | 'b' => some '\x08'
  | 'f' => some '\x0C'
  | 'n' => some '\n'
  | 'r' => some '\r'
  | 't' => some '\t'
  | _ => none

/-- The rest of a text in quotes, after its opening quote. The number bounds the characters. -/
def readText : Nat → List Char → Option (List Char × List Char)
  | 0, _ => none
  | fuel + 1, s =>
    match s with
    | [] => none
    | '"' :: rest => some ([], rest)
    | '\\' :: 'u' :: rest => do
      let (c, rest) ← readUnicodeEscape rest
      let (text, rest) ← readText fuel rest
      some (c :: text, rest)
    | '\\' :: c :: rest => do
      let c ← simpleEscape? c
      let (text, rest) ← readText fuel rest
      some (c :: text, rest)
    | c :: rest =>
      if c = '\\' ∨ c.toNat < 0x20 then none
      else do
        let (text, rest) ← readText fuel rest
        some (c :: text, rest)

/-- The natural number of a run of decimal digits. -/
def digitsValue (digits : List Char) : Nat :=
  digits.foldl (fun n c => n * 10 + (c.toNat - '0'.toNat)) 0

/-- The integer part of a number: a zero, or digits that do not begin with one. -/
def readWhole : List Char → Option (List Char × List Char)
  | '0' :: rest => some (['0'], rest)
  | s =>
    let digits := s.takeWhile Char.isDigit
    if digits.isEmpty then none else some (digits, s.dropWhile Char.isDigit)

/-- The digits after a decimal point; without digits the point is not part of the number. -/
def readFraction : List Char → Option (List Char × List Char)
  | '.' :: rest =>
    let digits := rest.takeWhile Char.isDigit
    if digits.isEmpty then none else some (digits, rest.dropWhile Char.isDigit)
  | _ => none

/-- The sign of an exponent; no sign counts as plus. -/
def readSign : List Char → Bool × List Char
  | '-' :: rest => (true, rest)
  | '+' :: rest => (false, rest)
  | s => (false, s)

/-- The exponent of a number; without digits the mark is not part of the number. -/
def readExponent : List Char → Option (Int × List Char)
  | c :: rest =>
    if c = 'e' ∨ c = 'E' then
      let (negative, rest) := readSign rest
      let digits := rest.takeWhile Char.isDigit
      if digits.isEmpty then none
      else
        let n := (digitsValue digits : Int)
        some (if negative then -n else n, rest.dropWhile Char.isDigit)
    else none
  | [] => none

/-- A number after its sign. Without fraction and exponent it is whole. -/
def readUnsigned (negative : Bool) (s : List Char) : Option (Json × List Char) := do
  let (whole, rest) ← readWhole s
  match readFraction rest with
  | some (fraction, rest) =>
    let (exponent, rest) := (readExponent rest).getD (0, rest)
    some (.decimal (Decimal.ofScientific negative (digitsValue (whole ++ fraction))
      (exponent - fraction.length)), rest)
  | none =>
    match readExponent rest with
    | some (exponent, rest) =>
      some (.decimal (Decimal.ofScientific negative (digitsValue whole) exponent), rest)
    | none =>
      let n := (digitsValue whole : Int)
      some (.integer (if negative then -n else n), rest)

/-- A number, or one of the named ones. -/
def readNumber (s : List Char) : Option (Json × List Char) :=
  match s with
  | 'N' :: _ => (readWord "NaN".toList s).map (.decimal .undefined, ·)
  | 'I' :: _ => (readWord "Infinity".toList s).map (.decimal (.infinite false), ·)
  | '-' :: 'I' :: _ => (readWord "-Infinity".toList s).map (.decimal (.infinite true), ·)
  | '-' :: rest => readUnsigned true rest
  | _ => readUnsigned false s

mutual

/-- A value at the head of a text. -/
def readValue : Nat → List Char → Option (Json × List Char)
  | 0, _ => none
  | fuel + 1, s =>
    match s with
    | 'n' :: _ => (readWord "null".toList s).map (.null, ·)
    | 't' :: _ => (readWord "true".toList s).map (.bool true, ·)
    | 'f' :: _ => (readWord "false".toList s).map (.bool false, ·)
    | '"' :: rest =>
      (readText fuel rest).map fun (text, rest) => (.string (String.ofList text), rest)
    | '[' :: rest =>
      match skipSpace rest with
      | ']' :: rest => some (.array [], rest)
      | rest => (readItems fuel rest).map fun (items, rest) => (.array items, rest)
    | '{' :: rest =>
      match skipSpace rest with
      | '}' :: rest => some (.object [], rest)
      | rest =>
        (readMembers fuel rest).map fun (members, rest) =>
          (.object (Table.ofList members).entries, rest)
    | s => readNumber s

/-- The items of an array up to its closing bracket. -/
def readItems : Nat → List Char → Option (List Json × List Char)
  | 0, _ => none
  | fuel + 1, s => do
    let (item, rest) ← readValue fuel s
    match skipSpace rest with
    | ',' :: rest =>
      let (items, rest) ← readItems fuel (skipSpace rest)
      some (item :: items, rest)
    | ']' :: rest => some ([item], rest)
    | _ => none

/-- The members of an object up to its closing brace. -/
def readMembers : Nat → List Char → Option (List (String × Json) × List Char)
  | 0, _ => none
  | fuel + 1, s =>
    match s with
    | '"' :: rest => do
      let (key, rest) ← readText fuel rest
      match skipSpace rest with
      | ':' :: rest =>
        let (value, rest) ← readValue fuel (skipSpace rest)
        match skipSpace rest with
        | ',' :: rest =>
          let (members, rest) ← readMembers fuel (skipSpace rest)
          some ((String.ofList key, value) :: members, rest)
        | '}' :: rest => some ([(String.ofList key, value)], rest)
        | _ => none
      | _ => none
    | _ => none

end

/-- The value of a whole text; blanks may surround it. -/
def parse (text : String) : Option Json :=
  match readValue (text.length + 1) (skipSpace text.toList) with
  | some (value, rest) => if (skipSpace rest).isEmpty then some value else none
  | none => none

end GoBindings.Json
