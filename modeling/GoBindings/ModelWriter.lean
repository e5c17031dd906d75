import GoBindings.Formatter
import GoBindings.Generator
import GoBindings.ModelFile

/-!
# Writing model files

Each processed model is rendered and written to a file of its own, which is then formatted. A model
written to the path of an earlier one takes its place.
-/

namespace GoBindings

/-- Why model files are not all written. -/
inductive WriteError where
  /-- The command of the formatter has no words. -/
  | command (error : CommandLine.WordsError)
  /-- The template gives no text. -/
  | template (error : TemplateError)
  /-- The formatter failed. -/
  | format (error : FormatError)
  deriving DecidableEq, Repr

/-- What was written. -/
structure WrittenModels where
  /-- The paths in the order of writing. -/
  paths : List FilePath := []
  /-- The text of each file by its name. -/
  files : Table String String := Table.empty
  /-- The commands that ran, in order. -/
  invocations : List (List String) := []

namespace Generator

/-- What the template of the file of a model may use. -/
def fileValues (generator : Generator) (model : GoModel) : ModelFileValues where
  packageName := generator.settings.packageName
  enumClassPrefix := generator.settings.enumClassPrefix
  imports := model.imports
  model := model

/-- The text of the file of a model. -/
def render (generator : Generator) (model : GoModel) : Except TemplateError String :=
  match generator.templates with
  | .shipped =>
    .ok (ModelFile.render generator.settings.packageName.text
      generator.settings.enumClassPrefix.isOn model)
  | .added engine => engine.render modelTemplateName (generator.fileValues model)

/-- One more model written and formatted. -/
def writeModel (generator : Generator) (directory : FilePath)
    (run : List String → CommandOutcome) (state : Formatter × WrittenModels) (model : GoModel) :
    Except WriteError (Formatter × WrittenModels) := do
  let (formatter, written) := state
  let fileName := model.fileName ++ fileExtension
  let path := directory.child fileName
  let text ← (generator.render model).mapError .template
  let (_, after) ← (formatter.process path "model" run).mapError .format
  return (after, {
    paths := written.paths ++ [path]
    files := written.files.insert fileName text
    invocations := written.invocations ++ (formatter.invocation? path "model").toList })

/-- The files of processed models, written to a directory and formatted. -/
def writeModels (generator : Generator) (models : List GoModel) (directory : FilePath)
    (run : List String → CommandOutcome) : Except WriteError WrittenModels := do
  let command := generator.settings.postProcessCommand.content
  let formatter ← (Formatter.ofCommand command).mapError .command
  let (_, written) ← models.foldlM (generator.writeModel directory run) (formatter.enter, {})
  return written

end Generator

end GoBindings
