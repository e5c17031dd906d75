import GoBindings.Text.Segments

/-!
# File paths

A path is a root and a list of named parts. Empty parts and single points mean nothing and are
dropped when a path is read, so equal paths are written equally.
-/

namespace GoBindings

/-- A path on a file system with slashes. -/
structure FilePath where
  /-- No text, one slash, or two slashes where a path begins with exactly two. -/
  root : String
  /-- The parts below the root, none of them empty or a single point. -/
  parts : List String
  deriving DecidableEq, Repr

namespace FilePath

/-- The root of a path text. -/
def rootOf : List Char → String
  | '/' :: '/' :: '/' :: _ => "/"
  | '/' :: '/' :: _ => "//"
  | '/' :: _ => "/"
  | _ => ""

/-- The path of a text. -/
def ofString (text : String) : FilePath where
  root := rootOf text.toList
  parts := (Text.segments '/' text).filter fun part => !part.isEmpty && part != "."

/-- The text of a path; the empty relative path is a point. -/
def toText (path : FilePath) : String :=
  if path.root.isEmpty && path.parts.isEmpty then "."
  else path.root ++ "/".intercalate path.parts

/-- The last part, or no text for a bare root. -/
def name (path : FilePath) : String := path.parts.getLast?.getD ""

/-- The path with a further part. -/
def child (path : FilePath) (part : String) : FilePath :=
  { path with parts := path.parts ++ [part] }

/-- The name from its last point on. A point at either end of the name begins no extension. -/
def extension (path : FilePath) : String :=
  let reversed := path.name.toList.reverse
  let tail := reversed.takeWhile (· != '.')
  match reversed.dropWhile (· != '.') with
  | _ :: stem =>
    if tail.isEmpty || stem.isEmpty then "" else String.ofList ('.' :: tail.reverse)
  | [] => ""

end FilePath

end GoBindings
