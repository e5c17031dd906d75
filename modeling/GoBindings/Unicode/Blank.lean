import GoBindings.Unicode.Range

/-!
# Blank characters

White space and the separators of lines, paragraphs and records. The zero-width space is not blank.
-/

namespace GoBindings.Unicode

/-- The blank characters. -/
def blanks : List Range :=
  [(0x9, 0xD), (0x1C, 0x20), (0x85, 0x85), (0xA0, 0xA0), (0x1680, 0x1680), (0x2000, 0x200A),
   (0x2028, 0x2029), (0x202F, 0x202F), (0x205F, 0x205F), (0x3000, 0x3000)]

/-- A character that trimming removes. -/
def isBlank (c : Char) : Bool := inRanges blanks c

end GoBindings.Unicode
