import GoBindings.Naming.InvalidMapping
import GoBindings.Report
import GoBindings.Schema
import GoBindings.Table

/-!
# Runs of a target

A target says how to process a model and a group of operations. A run processes every model and then
every group; the first failure ends it and leaves no records.
-/

namespace GoBindings

/-- Why a run fails. -/
inductive GenerationFault where
  /-- A name cannot be mapped. -/
  | mapping (error : InvalidMapping)
  /-- The target refuses an input. -/
  | refused (reason : String)
  deriving Repr

/-- The wording of the failure. -/
def GenerationFault.message : GenerationFault → String
  | .mapping error => error.message
  | .refused reason => reason

/-- A target for code generation, with records `μ` for models and `ω` for groups of operations. -/
structure Target (μ ω : Type) where
  /-- The name of the language. -/
  language : String
  /-- The extension of generated files, with its point. -/
  fileExtension : String
  /-- The remarks on models before they are processed. -/
  remarks : List Model → Report GenerationFault (List String)
  /-- The record of a model. -/
  processModel : Model → Report GenerationFault μ
  /-- The record of a group of operations. -/
  processOperations : String → List Operation → Report GenerationFault ω

/-- What a run produced. -/
structure Generation (μ ω : Type) where
  /-- The records of the models in order. -/
  models : List μ
  /-- The records of the groups in order. -/
  operations : List ω
  /-- The remarks on the models. -/
  remarks : List String
  /-- The name of the language. -/
  language : String
  /-- The extension of generated files. -/
  fileExtension : String
  /-- The number of models. -/
  modelCount : Nat
  /-- The number of groups. -/
  apiCount : Nat

/-- One remark for each model that has nothing in it. -/
def structuralRemarks (models : List Model) : List String :=
  (models.filter fun model =>
      model.fields.isEmpty && model.enumeration.isNone && model.composition.isNone).map
    fun model => "Model '" ++ model.name ++ "' has no fields"

/-- What is told of a run that fails. -/
def GenerationFault.announcement (fault : GenerationFault) : String :=
  "Code generation failed: " ++ fault.message

namespace Target

variable {μ ω : Type}

/-- The records of all models and groups. -/
def process (target : Target μ ω) (models : List Model) (groups : Table String (List Operation)) :
    Report GenerationFault (Generation μ ω) := do
  let remarks ← target.remarks models
  let modelRecords ← models.mapM target.processModel
  let groupRecords ← groups.entries.mapM fun (group, operations) =>
    target.processOperations group operations
  return {
    models := modelRecords, operations := groupRecords, remarks
    language := target.language, fileExtension := target.fileExtension
    modelCount := models.length, apiCount := groups.size }

/-- A run, its failure announced as an error. -/
def run (target : Target μ ω) (models : List Model) (groups : Table String (List Operation)) :
    Report GenerationFault (Generation μ ω) :=
  let processed := target.process models groups
  match processed.result with
  | .ok _ => processed
  | .error fault =>
    ⟨processed.notices ++ [⟨.error, fault.announcement⟩], .error fault⟩

/-- The target that lists the names of models and counts operations. Given a name, it refuses the
model or group of that name. -/
def outline (refused : Option String) : Target String (String × Nat) where
  language := "minimal"
  fileExtension := ".txt"
  remarks models := pure (structuralRemarks models)
  processModel model :=
    if refused = some model.name then .fail (.refused ("cannot process " ++ model.name))
    else pure model.name
  processOperations group operations :=
    if refused = some group then .fail (.mapping ⟨group, .other "bad group"⟩)
    else pure (group, operations.length)

end Target

end GoBindings
