import GoBindings.Proofs.Naming.Reservation
import GoBindings.Proofs.Runs.References

/-!
# Outcomes of runs

A run succeeds exactly when every reference that it meets names a model that is registered or one of
its own, wherever that stands. A run that fails tells the first reference that does neither, and
leaves no records.
-/

namespace GoBindings

/-! ## What a caller sees -/

/-- What a run leaves: whether it succeeded, and its records. -/
structure Outcome where
  /-- Whether the run succeeded. -/
  success : Bool
  /-- The records of the models. -/
  models : List GoModel
  /-- The records of the groups. -/
  operations : List GoApi

namespace Outcome

/-- What is left of a run that made records or failed. -/
def ofResult {ε : Type} : Except ε (List GoModel × List GoApi) → Outcome
  | .ok (models, operations) => ⟨true, models, operations⟩
  | .error _ => ⟨false, [], []⟩

/-- What is left is a success where there are records. -/
theorem success_ofResult {ε : Type} (report : Report ε (List GoModel × List GoApi)) :
    (ofResult report.result).success = true ↔ report.Succeeds := by
  rw [Report.Succeeds]
  cases report.result <;> simp [ofResult]

/-- All failures leave the same. -/
theorem ofResult_of_not_succeeds {ε : Type} {report : Report ε (List GoModel × List GoApi)}
    (fails : ¬ report.Succeeds) : ofResult report.result = ⟨false, [], []⟩ := by
  cases made : report.result with
  | ok records => exact absurd ⟨records, made⟩ fails
  | error error => rfl

/-- Another kind of failure leaves the same. -/
theorem ofResult_mapError {ε ε' : Type} (f : ε → ε')
    (result : Except ε (List GoModel × List GoApi)) :
    ofResult (result.mapError f) = ofResult result := by
  cases result <;> rfl

end Outcome

/-- The records that a run made. -/
def Generation.records {μ ω : Type} (made : Generation μ ω) : List μ × List ω :=
  (made.models, made.operations)

/-- The announcement of a failure does not change the result of a run. -/
theorem Target.result_run {μ ω : Type} (target : Target μ ω) (models : List Model)
    (groups : Table String (List Operation)) :
    (target.run models groups).result = (target.process models groups).result := by
  rw [Target.run]
  split
  · rfl
  · next failed => exact failed.symm

namespace Generator

variable (generator : Generator) (models : List Model) (groups : Table String (List Operation))

/-- What a run over models and groups leaves. -/
def outcome : Outcome :=
  .ofResult (Generation.records <$> (generator.generate models groups).2.result)

/-- Whether a run over some models may refer to a name: the model is registered already or is one
of them. -/
def admits (name : String) : Bool :=
  generator.types.isRegistered name || models.any (·.name == name)

/-- The registration of models adds their names. -/
theorem register_eq_withModels :
    generator.register models =
      generator.withModels (generator.types.models ++ models.map Model.name) := rfl

/-- What a run may refer to is what is registered once its models are. -/
theorem admits_eq (name : String) :
    generator.admits models name =
      (generator.types.models ++ models.map Model.name).contains name := by
  rw [Bool.eq_iff_iff]
  simp [admits, TypeResolver.isRegistered]

/-- The steps of the target are those of the generator, every failure told as that of a run. -/
theorem records_process :
    Generation.records <$> generator.target.process models groups =
      (generator.records models groups).mapError GenerationFault.mapping := by
  rw [records, Report.discard_bind]
  simp only [Target.process, target, ← Report.bind_mapError, ← Report.mapM_mapError, map_bind]
  rfl

/-- A run makes the records of its models and groups once the models are registered. -/
theorem records_generate :
    Generation.records <$> (generator.generate models groups).2.result =
      ((generator.register models).records models groups).result.mapError
        GenerationFault.mapping := by
  have steps := congrArg Report.result
    ((generator.register models).records_process models groups)
  rw [Report.result_map] at steps
  rw [generate, Target.result_run, steps]
  rfl

/-- A failure to make the records is that of the run. -/
theorem generate_fails {generator : Generator} {models : List Model}
    {groups : Table String (List Operation)} {error : InvalidMapping}
    (failed : ((generator.register models).records models groups).result = .error error) :
    (generator.generate models groups).2.result = .error (.mapping error) := by
  have told := generator.records_generate models groups
  rw [failed] at told
  cases ended : (generator.generate models groups).2.result with
  | ok made => rw [ended] at told; cases told
  | error fault => rw [ended] at told; cases told; rfl

/-- What a run leaves is what its records leave. -/
theorem outcome_eq :
    generator.outcome models groups =
      .ofResult ((generator.register models).records models groups).result := by
  rw [outcome, records_generate, Outcome.ofResult_mapError]

/-- The first reference that may not be made is the first whose model is not registered once those
of the run are. -/
theorem find?_not_admits (names : List String) :
    names.find? (!generator.admits models ·) =
      firstUnregistered (generator.types.models ++ models.map Model.name) names := by
  simp only [admits_eq, firstUnregistered]

/-! ## Fresh generators -/

/-- The generator under settings that override nothing. -/
def plain (settings : GoSettings) : Generator where
  settings := settings
  types := {
    naming := ⟨settings.toSettings, .plain⟩
    types := Table.ofList
      (defaultTypes.map fun (token, type) => (Label.ofText token, Label.ofText type)) }

/-- With the rules for names at hand, a generator lacks only its table of types. -/
theorem ofSettings_of_naming {settings : GoSettings} {naming : Naming}
    (named : Naming.ofSettings settings.toSettings = .ok naming) :
    ofSettings settings = ((typeTable naming.settings.typeMapping).map fun types =>
      { settings, types := { naming, types } }).mapError .mapping := by
  rw [ofSettings, named]
  change ((typeTable naming.settings.typeMapping).map _).mapError _ >>= _ = _
  cases typeTable naming.settings.typeMapping <;> rfl

/-- A generator is made of its settings and of the rules for names and the table of types that these
give. -/
theorem exists_of_ofSettings {settings : GoSettings} {generator : Generator}
    (built : ofSettings settings = .ok generator) :
    ∃ naming types, Naming.ofSettings settings.toSettings = .ok naming ∧
      typeTable naming.settings.typeMapping = .ok types ∧
      generator = { settings, types := { naming, types } } := by
  cases named : Naming.ofSettings settings.toSettings with
  | error error =>
    rw [ofSettings, named] at built
    cases built
  | ok naming =>
    rw [ofSettings_of_naming named] at built
    cases typed : typeTable naming.settings.typeMapping with
    | error error =>
      rw [typed] at built
      cases built
    | ok types =>
      rw [typed] at built
      cases built
      exact ⟨naming, types, rfl, typed, rfl⟩

/-- Settings that override nothing make a generator. -/
theorem ofSettings_eq_plain {settings : GoSettings} (nothing : settings.OverridesNothing)
    (noWords : settings.extraReservedWords = []) (noTypes : settings.typeMapping = Table.empty) :
    ofSettings settings = .ok (plain settings) := by
  have named : Naming.ofSettings settings.toSettings = .ok ⟨settings.toSettings, .plain⟩ := by
    rw [Naming.ofSettings, ReservedWords.ofSettings_eq_plain nothing noWords]
    rfl
  rw [ofSettings_of_naming named, noTypes]
  rfl

/-- No model is registered with a generator that was just made. -/
theorem models_of_ofSettings {settings : GoSettings} {generator : Generator}
    (fresh : ofSettings settings = .ok generator) : generator.types.models = [] := by
  obtain ⟨naming, types, -, -, rfl⟩ := exists_of_ofSettings fresh
  rfl

/-- The generator under the default settings meets no blank override. -/
theorem noBlankOverrides_plain : (plain {}).NoBlankOverrides := by
  constructor <;> exact fun _ member => absurd member List.not_mem_nil

/-! ## Success and failure -/

/-- Without blank overrides, a run succeeds exactly when it may make every reference that it
meets. -/
theorem outcome_success_iff (noBlanks : generator.NoBlankOverrides) :
    (generator.outcome models groups).success = true ↔
      ∀ name ∈ runReferences models groups, generator.admits models name = true := by
  rw [outcome_eq, Outcome.success_ofResult, register_eq_withModels,
    (generator.records_consults models groups).succeeds_iff noBlanks]
  simp only [admits_eq, List.contains_iff_mem]

/-- Without blank overrides, a run succeeds exactly when every reference that it meets names a model
that is registered or is one of its own. A run that fails leaves no records and tells the first
reference that does not. -/
theorem outcome_of_references (noBlanks : generator.NoBlankOverrides) :
    ((generator.outcome models groups).success = true ↔
      ∀ name ∈ runReferences models groups, generator.admits models name = true) ∧
    ((generator.outcome models groups).success = false →
      (generator.outcome models groups).models = [] ∧
      (generator.outcome models groups).operations = [] ∧
      ∃ name, (runReferences models groups).find? (!generator.admits models ·) = some name ∧
        (generator.generate models groups).2.result =
          .error (.mapping ⟨name, .unregisteredModel⟩)) := by
  refine ⟨generator.outcome_success_iff models groups noBlanks, ?_⟩
  rw [outcome_eq]
  cases made : ((generator.register models).records models groups).result with
  | ok records => exact fun failed => Bool.noConfusion failed
  | error error =>
    have consults := generator.records_consults models groups
    obtain ⟨name, found, rfl⟩ := consults.unregistered noBlanks made
    rw [find?_not_admits]
    exact fun _ => ⟨rfl, rfl, name, found, generate_fails made⟩

/-- A union fails with the member whose model is missing, though it stands behind the null and a
list of the union itself. -/
theorem union_tells_missing_member :
    let pet : Model := {
      name := "Pet"
      composition := some {
        kind := .oneOf, modelName := none
        members := [.primitive "null", .array (.reference "Pet") false, .reference "Tag"] } }
    ((plain {}).generate [pet] Table.empty).2.result =
      .error (.mapping ⟨"Tag", .unregisteredModel⟩) := by
  intro pet
  obtain ⟨succeeds, fails⟩ := outcome_of_references (plain {}) [pet] Table.empty
    noBlankOverrides_plain
  have failed : ((plain {}).outcome [pet] Table.empty).success = false := by
    refine Bool.eq_false_iff.2 fun done => ?_
    have admitted := succeeds.1 done "Tag" (List.mem_cons_of_mem "Pet" List.mem_cons_self)
    exact Bool.false_ne_true admitted
  obtain ⟨-, -, name, found, told⟩ := fails failed
  have first : some "Tag" = some name := found
  rwa [← Option.some.inj first] at told

end Generator

end GoBindings
