import GoBindings.ModelWriter
import GoBindings.Proofs.Naming.ModelFiles
import GoBindings.Proofs.Runs.Order
import GoBindings.Proofs.Runs.Records
import GoBindings.Proofs.Tables
import Mathlib.Data.List.Nodup

/-!
# Written models

Models are written one after another into a table of files, so each model has a file of its own just
where no two have the same file name. Under the default settings nothing else can happen to them,
and the file names of a run are those of its models. The main statement says of which runs over
models of different types a file is lost.
-/

namespace GoBindings

/-! ## Writing without a formatter -/

namespace Generator

/-- The file of a model by its name. -/
def fileOf (generator : Generator) (model : GoModel) : String × String :=
  (model.fileName ++ fileExtension,
    ModelFile.render generator.settings.packageName.text
      generator.settings.enumClassPrefix.isOn model)

/-- A formatter without a command leaves a file alone. -/
theorem process_of_noCommand {formatter : Formatter} (active : formatter.isActive = true)
    (noCommand : formatter.command = []) (path : FilePath) (kind : String)
    (run : List String → CommandOutcome) :
    formatter.invocation? path kind = none ∧
      formatter.process path kind run = .ok (false, formatter) := by
  have nothing : formatter.invocation? path kind = none := by
    simp [Formatter.invocation?, Formatter.isEnabled, noCommand]
  refine ⟨nothing, ?_⟩
  rw [Formatter.process, nothing, active]
  rfl

/-- A model is written by entering its file. -/
theorem writeModel_of_noCommand {generator : Generator} (shipped : generator.templates = .shipped)
    (formatter : Formatter) (active : formatter.isActive = true)
    (noCommand : formatter.command = []) (directory : FilePath)
    (run : List String → CommandOutcome) (written : WrittenModels) (model : GoModel) :
    generator.writeModel directory run (formatter, written) model =
      .ok (formatter, {
        paths := written.paths ++ [directory.child (model.fileName ++ fileExtension)]
        files := written.files.insert (generator.fileOf model).1 (generator.fileOf model).2
        invocations := written.invocations }) := by
  obtain ⟨nothing, left⟩ := process_of_noCommand active noCommand
    (directory.child (model.fileName ++ fileExtension)) "model" run
  have rendered : generator.render model = .ok (generator.fileOf model).2 := by
    rw [render, shipped]
    rfl
  simp only [writeModel, left, rendered, nothing]
  rw [Option.toList_none, List.append_nil]
  rfl

/-- Models are written by entering their files in order. -/
theorem foldlM_writeModel {generator : Generator} (shipped : generator.templates = .shipped)
    (formatter : Formatter) (active : formatter.isActive = true)
    (noCommand : formatter.command = []) (directory : FilePath)
    (run : List String → CommandOutcome) (written : WrittenModels) (models : List GoModel) :
    models.foldlM (generator.writeModel directory run) (formatter, written) =
      .ok (formatter, {
        paths := written.paths ++
          models.map fun model => directory.child (model.fileName ++ fileExtension)
        files := written.files.insertMany (models.map generator.fileOf)
        invocations := written.invocations }) := by
  induction models generalizing written with
  | nil => simp [Table.insertMany, pure, Except.pure]
  | cons model rest ih =>
    rw [List.foldlM_cons, writeModel_of_noCommand shipped formatter active noCommand]
    change rest.foldlM _ _ = _
    rw [ih]
    simp [Table.insertMany]

/-- Without a command the files that are written are those of the models. -/
theorem writeModels_of_noCommand {generator : Generator} (shipped : generator.templates = .shipped)
    (noCommand : CommandLine.words generator.settings.postProcessCommand.content = .ok [])
    (models : List GoModel) (directory : FilePath) (run : List String → CommandOutcome) :
    generator.writeModels models directory run = .ok {
      paths := models.map fun model => directory.child (model.fileName ++ fileExtension)
      files := Table.ofList (models.map generator.fileOf) } := by
  have steps := foldlM_writeModel shipped (Formatter.enter { command := [] }) rfl rfl directory run
    {} models
  simp only [writeModels, Formatter.ofCommand, noCommand]
  change (models.foldlM (generator.writeModel directory run) (Formatter.enter { command := [] }, {})
    >>= fun state => Except.ok state.2) = _
  rw [steps]
  rfl

/-- Each model has a file of its own, and there is no other, just where no two of them have the same
file name. -/
theorem entries_files_iff (generator : Generator) (models : List GoModel) :
    (Table.ofList (models.map generator.fileOf)).entries = models.map generator.fileOf ↔
      (models.map GoModel.fileName).Nodup := by
  have names : (models.map generator.fileOf).map Prod.fst =
      (models.map GoModel.fileName).map (· ++ fileExtension) := by
    rw [List.map_map, List.map_map]
    rfl
  rw [Table.entries_ofList_iff, names]
  exact List.nodup_map_iff fun first second same => (String.append_left_inj fileExtension).1 same

/-! ## Runs under the default settings -/

/-- The type name of a model under the default settings. -/
theorem modelTypeName_plain (raw : String) :
    ((plain {}).naming.modelTypeName raw).result = .ok (plainTypeName raw) := by
  have noAffixes : applyAffixes {} raw = raw := applyAffixes_of_empty rfl rfl raw
  have nothing : (plain {}).naming.settings.OverridesNothing := ⟨rfl, rfl, rfl, rfl, rfl⟩
  have named := Naming.modelName_result nothing raw
  rw [Naming.modelTypeName, Report.result_map, named, Naming.computedModelName]
  change Except.ok (camel (snakeModelName .plain (applyAffixes {} raw)).name) = _
  rw [noAffixes]
  rfl

/-- The file name of a model under the default settings. -/
theorem modelFileName_plain (raw : String) :
    ((plain {}).naming.modelFileName raw).result = .ok (plainFileName raw) := rfl

/-- The records of a run that succeeds have the files of its models. -/
theorem fileNames_of_success {more models : List Model}
    {groups : Table String (List Operation)}
    (success : (((plain {}).register more).outcome models groups).success = true) :
    (((plain {}).register more).outcome models groups).models.map GoModel.fileName =
      models.map fun model => plainFileName model.name := by
  rw [outcome_eq] at success ⊢
  have succeeds := (Outcome.success_ofResult _).1 success
  obtain ⟨-, processed, -⟩ := (records_succeeds_iff _ _ _).1 succeeds
  rw [result_records _ succeeds, Outcome.ofResult, List.map_map]
  refine List.map_congr_left fun model member => ?_
  obtain ⟨parts, computes, made⟩ := exists_parts (processed model member).result_eq
  have filed : (Except.ok (plainFileName model.name) : Except InvalidMapping String) =
      .ok parts.fileName := (modelFileName_plain model.name).symm.trans computes.fileName
  rw [Function.comp_apply, modelRecord, made]
  exact (Except.ok.inj filed).symm

/-- Models of different types have different files where no two of their names shadow. -/
theorem nodup_plainFileName_iff {names : List String} (types : (names.map plainTypeName).Nodup) :
    (names.map plainFileName).Nodup ↔
      names.Pairwise fun first second => ¬ Shadows first second ∧ ¬ Shadows second first := by
  rw [List.Nodup, List.pairwise_map] at types ⊢
  constructor
  · intro files
    refine (types.and files).imp fun both => ?_
    rw [← not_or]
    exact mt (plainFileName_eq_iff both.1).2 both.2
  · intro unshadowed
    refine (types.and unshadowed).imp fun both => ?_
    exact mt (plainFileName_eq_iff both.1).1 (not_or.2 both.2)

/-- Under the default settings every model has a type name and a file name. Models of different
types have the same file exactly where the name of one shadows that of the other: it is a file name
already, and the one computed for the other. So of a run over models of different types, whatever
was registered before, every model can be written, and each has a file of its own and there is no
other exactly where no name shadows another. -/
theorem model_files_apart :
    ∃ generator : Generator, ofSettings {} = .ok generator ∧
    ∃ typeName fileName : String → String,
      (∀ raw, (generator.naming.modelTypeName raw).result = .ok (typeName raw) ∧
        (generator.naming.modelFileName raw).result = .ok (fileName raw)) ∧
      (∀ first second, typeName first ≠ typeName second →
        (fileName first = fileName second ↔ Shadows first second ∨ Shadows second first)) ∧
      ∀ (more models : List Model) (groups : Table String (List Operation)),
        let run := (generator.register more).outcome models groups
        run.success = true → (models.map fun model => typeName model.name).Nodup →
        ∀ (directory : FilePath) (format : List String → CommandOutcome), ∃ written,
          generator.writeModels run.models directory format = .ok written ∧
          (written.files.entries = run.models.map generator.fileOf ↔
            (models.map Model.name).Pairwise fun first second =>
              ¬ Shadows first second ∧ ¬ Shadows second first) := by
  refine ⟨plain {}, ofSettings_eq_plain ⟨rfl, rfl, rfl, rfl, rfl⟩ rfl rfl, plainTypeName,
    plainFileName, fun raw => ⟨modelTypeName_plain raw, modelFileName_plain raw⟩,
    fun first second apart => plainFileName_eq_iff apart, ?_⟩
  intro more models groups run success types directory format
  have shipped : (plain {}).templates = .shipped := rfl
  refine ⟨_, writeModels_of_noCommand shipped rfl run.models directory format, ?_⟩
  have ofNames (f : String → String) :
      (models.map fun model => f model.name) = (models.map Model.name).map f :=
    List.map_map.symm
  rw [ofNames] at types
  rw [entries_files_iff, fileNames_of_success success, ofNames]
  exact nodup_plainFileName_iff types

/-- A model and the one it refers to, whose name already is a file name, keep a file each, though a
third model is registered whose file name would be the same. -/
theorem referring_models_keep_files :
    let pet : Model :=
      { name := "Pet", fields := [{ baseName := "tag", schema := .reference "model_tag" }] }
    let tag : Model := { name := "model_tag" }
    ∃ generator : Generator, ofSettings {} = .ok generator ∧
      let run := (generator.register [{ name := "Tag" }]).outcome [pet, tag] Table.empty
      run.success = true ∧ ∃ written,
        generator.writeModels run.models (.ofString "out") (fun _ => .timedOut) = .ok written ∧
        written.files.entries = run.models.map generator.fileOf := by
  intro pet tag
  obtain ⟨generator, built, typeName, fileName, named, -, runs⟩ := model_files_apart
  have same : plain {} = generator := Except.ok.inj
    ((ofSettings_eq_plain ⟨rfl, rfl, rfl, rfl, rfl⟩ rfl rfl).symm.trans built)
  subst same
  have typed (raw : String) : typeName raw = plainTypeName raw :=
    Except.ok.inj ((named raw).1.symm.trans (modelTypeName_plain raw))
  have success : (((plain {}).register [{ name := "Tag" }]).outcome [pet, tag]
      Table.empty).success = true := by
    refine (outcome_success_iff _ _ _ ?_).2 fun name member => ?_
    · exact noBlankOverrides_plain
    · rw [List.mem_singleton.1 (show name ∈ ["model_tag"] from member)]
      rfl
  have types : ([pet, tag].map fun model => typeName model.name).Nodup := by
    have apart : plainTypeName "Pet" ≠ plainTypeName "model_tag" := by decide
    simpa [pet, tag, typed] using apart
  obtain ⟨written, done, each⟩ := runs [{ name := "Tag" }] [pet, tag] Table.empty success types
    (.ofString "out") fun _ => .timedOut
  refine ⟨plain {}, built, success, written, done, each.2 ?_⟩
  decide

/-- The models `Pet` and `model_pet` have different types and the same file. -/
theorem shadowed_model_shares_file :
    ∃ generator : Generator, ofSettings {} = .ok generator ∧
      (generator.naming.modelTypeName "Pet").result = .ok "Pet" ∧
      (generator.naming.modelTypeName "model_pet").result = .ok "ModelPet" ∧
      (generator.naming.modelFileName "Pet").result = .ok "model_pet" ∧
      (generator.naming.modelFileName "model_pet").result = .ok "model_pet" := by
  have types : plainTypeName "Pet" = "Pet" ∧ plainTypeName "model_pet" = "ModelPet" := by decide
  have files : plainFileName "Pet" = "model_pet" ∧ plainFileName "model_pet" = "model_pet" := by
    decide
  refine ⟨plain {}, ofSettings_eq_plain ⟨rfl, rfl, rfl, rfl, rfl⟩ rfl rfl, ?_, ?_, ?_, ?_⟩
  · rw [modelTypeName_plain, types.1]
  · rw [modelTypeName_plain, types.2]
  · rw [modelFileName_plain, files.1]
  · rw [modelFileName_plain, files.2]

end Generator

end GoBindings
