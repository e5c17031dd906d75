import GoBindings.Unicode.Printable

/-!
# Quoted text for messages

A text is shown between quotes with its unprintable characters written as escapes. Apostrophes are
the default quotes; a text that holds apostrophes and no quotation marks is put between quotation
marks instead, so that nothing needs a backslash.
-/

namespace GoBindings.Text.Quoted

open Unicode

/-- The given number of hexadecimal digits of a code point, the last ones. -/
def hexDigits (width code : Nat) : List Char :=
  match width with
  | 0 => []
  | more + 1 => hexDigits more (code / 16) ++ [Nat.digitChar (code % 16)]

/-- The shown form of one character between the given quotes. -/
def escapeChar (quote c : Char) : List Char :=
  if c = quote || c = '\\' then ['\\', c]
  else if c = '\n' then ['\\', 'n']
  else if c = '\r' then ['\\', 'r']
  else if c = '\t' then ['\\', 't']
  else if isPrintable c then [c]
  else if c.toNat ≤ 0xFF then '\\' :: 'x' :: hexDigits 2 c.toNat
  else if c.toNat ≤ 0xFFFF then '\\' :: 'u' :: hexDigits 4 c.toNat
  else '\\' :: 'U' :: hexDigits 8 c.toNat

/-- The quote that suits a text: an apostrophe unless only quotation marks avoid escapes. -/
def quoteFor (s : List Char) : Char :=
  if s.contains '\'' && !s.contains '"' then '"' else '\''

/-- A text between the quotes that suit it. -/
def encode (s : String) : String :=
  let quote := quoteFor s.toList
  String.ofList (quote :: s.toList.flatMap (escapeChar quote) ++ [quote])

end GoBindings.Text.Quoted
