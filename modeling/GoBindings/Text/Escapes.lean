import GoBindings.Text.Segments

/-!
# Escapes

A character that cannot stand between quotation marks as it is becomes a backslash and a letter.
Escapes are made one kind after the other, each over the whole text, so those of backslashes have to
come before the others.
-/

namespace GoBindings.Text

/-- A character escaped, if it is the one that the letter stands for. -/
def escapeChar (symbol letter c : Char) : List Char := if c = symbol then ['\\', letter] else [c]

/-- A text with characters escaped, one kind after the other: each entry is a character and the
letter that stands for it behind a backslash. -/
def escape (escapes : List (Char × Char)) (s : String) : String :=
  escapes.foldl (fun written entry => replaceChars (escapeChar entry.1 entry.2) written) s

end GoBindings.Text
