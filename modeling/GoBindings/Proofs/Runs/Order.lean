import GoBindings.Proofs.Runs.Outcome

/-!
# Order of models and groups

A run over the same models and groups in another order succeeds just the same and makes the same
record of each. Models that are registered beforehand change no record of a run that succeeds. Both
hold because a record depends on the registration only through the references that it reaches, and
all models of a run are registered before the first record is made.
-/

namespace GoBindings

instance : Inhabited GoModel := ⟨{ name := "", fileName := "" }⟩

instance : Inhabited GoApi :=
  ⟨{ name := "", fileName := "", testFileName := "", operations := [], imports := [] }⟩

namespace Generator

variable (generator : Generator)

/-! ## Records one by one -/

/-- The record of a model that can be processed. -/
def modelRecord (model : Model) : GoModel := (generator.processModel model).value

/-- The record of a group that can be processed. -/
def groupRecord (group : String × List Operation) : GoApi :=
  (generator.processOperations group.1 group.2).value

/-- The remarks on models can be made where every property has a field name. -/
theorem remarks_succeeds_iff (models : List Model) :
    (generator.remarks models).Succeeds ↔ ∀ model ∈ models, ∀ field ∈ model.fields,
      (generator.naming.fieldName field.baseName).Succeeds := by
  rw [← Report.fault?_eq_none, remarks_fault?]
  simp only [List.findSome?_eq_none_iff, Report.fault?_eq_none]

/-- A run makes its records where each of them can be made alone. -/
theorem records_succeeds_iff (models : List Model) (groups : Table String (List Operation)) :
    (generator.records models groups).Succeeds ↔
      (∀ model ∈ models, ∀ field ∈ model.fields,
        (generator.naming.fieldName field.baseName).Succeeds) ∧
      (∀ model ∈ models, (generator.processModel model).Succeeds) ∧
      ∀ group ∈ groups.entries, (generator.processOperations group.1 group.2).Succeeds := by
  rw [← remarks_succeeds_iff, ← Report.mapM_succeeds_iff, ← Report.mapM_succeeds_iff,
    ← Report.discard_succeeds_iff (generator.remarks models)]
  simp only [records, Report.bind_succeeds_iff]
  constructor
  · rintro ⟨nothing, remarked, made, processed, apis, grouped, -⟩
    exact ⟨⟨nothing, remarked⟩, ⟨made, processed⟩, apis, grouped⟩
  · rintro ⟨⟨nothing, remarked⟩, ⟨made, processed⟩, apis, grouped⟩
    exact ⟨nothing, remarked, made, processed, apis, grouped, Report.succeeds_pure (made, apis)⟩

/-- The records of a run are those of its models and groups in order. -/
theorem result_records {models : List Model} {groups : Table String (List Operation)}
    (succeeds : (generator.records models groups).Succeeds) :
    (generator.records models groups).result =
      .ok (models.map generator.modelRecord, groups.entries.map generator.groupRecord) := by
  obtain ⟨named, processed, grouped⟩ := (generator.records_succeeds_iff models groups).1 succeeds
  obtain ⟨nothing, remarked⟩ := (Report.discard_succeeds_iff _).2
    ((generator.remarks_succeeds_iff models).2 named)
  have made := Report.result_mapM processed
  have apis := Report.result_mapM grouped
  simp only [records, Report.result_bind, remarked, made, apis]
  rfl

/-! ## Reordered runs -/

/-- A reordered run registers the same models. -/
theorem mem_registered_of_perm {models models' : List Model} (reordered : models.Perm models')
    (name : String) :
    name ∈ generator.types.models ++ models'.map Model.name ↔
      name ∈ generator.types.models ++ models.map Model.name := by
  rw [List.mem_append, List.mem_append, (reordered.map Model.name).mem_iff]

/-- The records of a reordered run are those that the registration of the first order gives. -/
theorem outcome_of_perm {models models' : List Model} (reordered : models.Perm models')
    (groups' : Table String (List Operation)) :
    generator.outcome models' groups' =
      .ofResult ((generator.register models).records models' groups').result := by
  have consults := generator.records_consults models' groups'
  have same := consults.agrees fun name _ => generator.mem_registered_of_perm reordered name
  rw [outcome_eq, register_eq_withModels, same]
  rfl

/-- A reordered run can make its records where the run can. -/
theorem records_succeeds_of_perm {models models' : List Model}
    {groups groups' : Table String (List Operation)} (reordered : models.Perm models')
    (regrouped : groups.entries.Perm groups'.entries) :
    (generator.records models' groups').Succeeds ↔ (generator.records models groups).Succeeds := by
  simp only [records_succeeds_iff, reordered.mem_iff, regrouped.mem_iff]

/-- Models registered beforehand change nothing of a run that succeeds. -/
theorem outcome_register {models : List Model} {groups : Table String (List Operation)}
    (success : (generator.outcome models groups).success = true) (more : List Model) :
    (generator.register more).outcome models groups = generator.outcome models groups := by
  have consults := generator.records_consults models groups
  rw [outcome_eq] at success ⊢
  obtain ⟨made, done⟩ := (Outcome.success_ofResult _).1 success
  have known := consults.registered done
  have wider (name : String) (member : name ∈ runReferences models groups) :
      name ∈ (generator.register more).types.models ++ models.map Model.name := by
    rcases List.mem_append.1 (known name member) with before | own
    · exact List.mem_append_left _ (List.mem_append_left _ before)
    · exact List.mem_append_right _ own
  have same := consults.agrees fun name member =>
    ⟨fun _ => known name member, fun _ => wider name member⟩
  rw [outcome_eq]
  exact congrArg Outcome.ofResult same

/-- A run over reordered models and groups succeeds just the same, and where it succeeds, each model
and each group has one record in both orders. Models registered beforehand change nothing of a run
that succeeds. -/
theorem outcome_order_independent {models models' : List Model}
    {groups groups' : Table String (List Operation)} (reordered : models.Perm models')
    (regrouped : groups.entries.Perm groups'.entries) :
    (generator.outcome models' groups').success = (generator.outcome models groups).success ∧
    ((generator.outcome models groups).success = true →
      (∃ (record : Model → GoModel) (api : String × List Operation → GoApi),
        generator.outcome models groups =
          ⟨true, models.map record, groups.entries.map api⟩ ∧
        generator.outcome models' groups' =
          ⟨true, models'.map record, groups'.entries.map api⟩) ∧
      ∀ more : List Model,
        (generator.register more).outcome models groups = generator.outcome models groups) := by
  have together := (generator.register models).records_succeeds_of_perm reordered regrouped
  refine ⟨?_, fun success => ⟨?_, generator.outcome_register success⟩⟩
  · rw [generator.outcome_of_perm reordered groups', generator.outcome_eq models groups,
      Bool.eq_iff_iff, Outcome.success_ofResult, Outcome.success_ofResult, together]
  · rw [generator.outcome_eq models groups] at success ⊢
    have succeeds := (Outcome.success_ofResult _).1 success
    refine ⟨(generator.register models).modelRecord, (generator.register models).groupRecord, ?_⟩
    rw [generator.outcome_of_perm reordered groups', result_records _ succeeds,
      result_records _ (together.2 succeeds)]
    exact ⟨rfl, rfl⟩

/-- Two models that refer to each other, one of them by a list, have one record each in both
orders. -/
theorem mutual_models_order_independent :
    let pet : Model :=
      { name := "Pet", fields := [{ baseName := "owner", schema := .reference "Owner" }] }
    let owner : Model := {
      name := "Owner"
      fields := [{ baseName := "pets", schema := .array (.reference "Pet") true }] }
    ∃ record : Model → GoModel,
      ((plain {}).outcome [pet, owner] Table.empty).models = [record pet, record owner] ∧
      ((plain {}).outcome [owner, pet] Table.empty).models = [record owner, record pet] := by
  intro pet owner
  have success : ((plain {}).outcome [pet, owner] Table.empty).success = true := by
    refine (outcome_success_iff _ _ _ noBlankOverrides_plain).2 fun name member => ?_
    rcases List.mem_cons.1 (show name ∈ ["Owner", "Pet"] from member) with rfl | last
    · rfl
    · rw [List.mem_singleton.1 last]
      rfl
  obtain ⟨-, keeps⟩ := outcome_order_independent (plain {}) (List.Perm.swap owner pet [])
    (List.Perm.refl (Table.empty : Table String (List Operation)).entries)
  obtain ⟨⟨record, api, first, second⟩, -⟩ := keeps success
  refine ⟨record, ?_, ?_⟩
  · rw [first]
    rfl
  · rw [second]
    rfl

end Generator

end GoBindings
