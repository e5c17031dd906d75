import GoBindings.Naming.ModelName

/-!
# File names

Files are named in snake case with a start that tells their kind. The Go tool reads the last part of
a file name as a build constraint or the mark of a test; such a name gets an underscore at its end.
A name that already is the name of a file of its kind is taken as it is.
-/

namespace GoBindings

/-- The start of the name of a model file. -/
def modelFileStart : String := "model_"

/-- The start of the name of an interface file. -/
def apiFileStart : String := "api_"

/-- The ending of the name of a test file. -/
def testFileEnding : String := "_test"

/-- Whether the part of a file name after its last underscore means something to the Go tool. -/
def isReservedFileName (name : String) : Bool :=
  match (Text.segments '_' name).getLast? with
  | some ending => GoWords.fileNameEndings.contains ending
  | none => false

/-- Whether a body consists of small letters, digits and underscores, at least one of them. -/
def isLowerSnake (body : String) : Bool :=
  !body.isEmpty && body.toList.all fun c => c.isLower || c.isDigit || c == '_'

/-- A file name made safe from the Go tool; the announcement names the file by `shown`. -/
def freeFileName (shown file : String) : Named String :=
  if isReservedFileName file then
    .corrected (file ++ "_")
      (shown ++ ".go with suffix (reserved word) cannot be used as filename. Renamed to " ++ file
        ++ "_.go")
  else .kept file

/-- A computed name as a file name, the announcements of both steps together. -/
def Named.toFileName (named : Named String) : Named String :=
  let free := freeFileName named.name named.name
  ⟨free.name, named.notices ++ free.notices⟩

/-- The file name of an interface group. -/
def apiFileName (raw : String) : Named String :=
  let body := sanitize raw
  let file :=
    if Text.startsWith apiFileStart body && isLowerSnake body then body
    else
      let snakeName := snake body
      apiFileStart ++ (if snakeName.isEmpty then "default" else snakeName)
  freeFileName raw file

/-- The body of a group name without the ending of a test file. -/
def dropTestEnding (raw : String) : String :=
  let body := sanitize raw
  if Text.endsWith testFileEnding body && isLowerSnake body then
    String.ofList (body.toList.take (body.length - testFileEnding.length))
  else body

/-- The test file name of an interface group. -/
def apiTestFileName (raw : String) : Named String :=
  (apiFileName (dropTestEnding raw)).map (· ++ testFileEnding)

namespace Naming

/-- The file name computed for a model whose override, if any, is already in place. -/
def computedModelFileName (naming : Naming) (name : String) : Named String :=
  let body := sanitize name
  if Text.startsWith modelFileStart body && isLowerSnake body then (Named.kept body).toFileName
  else
    (GoBindings.snakeModelName naming.reserved
      (modelFileStart ++ applyAffixes naming.settings name)).toFileName

/-- The file name of a model, without its extension. -/
def modelFileName (naming : Naming) (raw : String) : Report InvalidMapping String := do
  let name ← overriddenBy naming.settings.modelNameMapping raw (pure raw)
  (naming.computedModelFileName name.text).report

end Naming

end GoBindings
