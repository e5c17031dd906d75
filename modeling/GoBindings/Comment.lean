import GoBindings.Text.Segments

/-!
# Comment lines

A description becomes a comment by marking each of its lines, so no line of it stands as code.
-/

namespace GoBindings

/-- The mark of a comment line in Go. -/
def commentMark : String := "//"

/-- A line behind a mark; a blank line leaves the mark alone. -/
def commentLine (mark line : String) : String :=
  if line.toList.all Unicode.isBlank then mark else mark ++ " " ++ line

/-- A text with every line marked. -/
def commentLines (mark text : String) : String :=
  Text.join "\n" ((Text.segments '\n' text).map (commentLine mark))

end GoBindings
