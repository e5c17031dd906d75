import GoBindings.Proofs.Runs.ModelImports

/-!
# What remarks foresee

Before a run, remarks tell which references of models cannot be resolved. Fields are resolved for
this with all that they contain, but of the members of a union only those are looked at that are
references themselves. The main statement: where there are no remarks, every model can be processed
exactly where the references inside the members of unions are registered, and a model that cannot
fails with the first of these that is not.
-/

namespace GoBindings

/-! ## References inside members -/

/-- The references inside a schema, without the one that it is itself. -/
def Schema.innerReferences : Schema → List String
  | .reference _ => []
  | schema => schema.references

namespace Model

/-- The references inside the members of the union that a model is. -/
def innerReferences (model : Model) : List String :=
  model.memberShapes.flatMap Schema.innerReferences

/-- A model refers to what its fields and the members of its union refer to. -/
theorem references_eq (model : Model) :
    model.references = model.fields.flatMap (·.schema.references) ++
      model.memberShapes.flatMap Schema.references := by
  have members : model.composition.elim [] Composition.references =
      model.memberShapes.flatMap Schema.references := by
    rw [memberShapes]
    cases model.composition with
    | none => rfl
    | some composition =>
      simp only [Option.elim_some, Composition.references, Composition.shapes]
      split <;> rfl
  rw [references, members]

/-- The members of the union that a model is stand in its composition. -/
theorem exists_of_mem_memberShapes {model : Model} {shape : Schema}
    (member : shape ∈ model.memberShapes) :
    ∃ composition, model.composition = some composition ∧ shape ∈ composition.members := by
  rw [memberShapes] at member
  cases combined : model.composition with
  | none =>
    rw [combined] at member
    exact absurd member List.not_mem_nil
  | some composition =>
    rw [combined, Option.elim_some, Composition.shapes] at member
    split at member
    · exact absurd member List.not_mem_nil
    · exact ⟨composition, rfl, (List.mem_filter.1 member).1⟩

end Model

/-! ## What no remark means -/

namespace Generator

variable {generator : Generator} {model : Model} {models : List Model}

/-- A model of which the remarks see all: the types of its fields are found, and so are the members
of its composition that are references. -/
structure SeesResolved (generator : Generator) (model : Model) : Prop where
  /-- Each field has a type. -/
  fields : ∀ field ∈ model.fields, (generator.types.resolve field.schema).Succeeds
  /-- Each member that is a reference is that to a registered model. -/
  members : ∀ name, .reference name ∈ model.memberShapes →
    generator.types.isRegistered name = true

/-- A field without remarks has a type. -/
theorem resolve_succeeds_of_fieldRemarks {field : Field} {types : List GoType}
    (quiet : (generator.fieldRemarks model field).result = .ok ([], types)) :
    (generator.types.resolve field.schema).Succeeds := by
  simp only [fieldRemarks, Report.result_bind_eq_ok] at quiet
  obtain ⟨resolved, attempted, name, -, told⟩ := quiet
  cases attempted
  cases made : (generator.types.resolve field.schema).result with
  | ok type => exact ⟨type, made⟩
  | error error =>
    rw [made] at told
    cases told

/-- Without remarks on its composition, the members of a model that are references are those to
registered models. -/
theorem isRegistered_of_compositionRemarks (quiet : generator.compositionRemarks model = [])
    {name : String} (member : .reference name ∈ model.memberShapes) :
    generator.types.isRegistered name = true := by
  obtain ⟨composition, combined, there⟩ := Model.exists_of_mem_memberShapes member
  rw [compositionRemarks, combined, List.filterMap_eq_nil_iff] at quiet
  have silent := quiet _ there
  by_cases registered : generator.types.isRegistered name = true
  · exact registered
  · simp only [if_neg registered] at silent
    cases silent

/-- What the remarks see of a model without remarks is resolved. -/
theorem seesResolved_of_modelRemarks {types : List GoType}
    (quiet : (generator.modelRemarks model).result = .ok ([], types)) :
    generator.SeesResolved model := by
  obtain ⟨found, remarked, last⟩ := Report.result_bind_eq_ok.1 quiet
  have told : found.flatMap Prod.fst ++ generator.compositionRemarks model = [] :=
    congrArg Prod.fst (Except.ok.inj last)
  obtain ⟨onFields, onComposition⟩ := List.append_eq_nil_iff.1 told
  refine ⟨fun field member => ?_, fun name => isRegistered_of_compositionRemarks onComposition⟩
  obtain ⟨⟨remarks, types⟩, there, made⟩ := Report.exists_of_mem_mapM remarked member
  have none : remarks = [] := List.flatMap_eq_nil_iff.1 onFields _ there
  rw [none] at made
  exact resolve_succeeds_of_fieldRemarks made

/-- Where there are no remarks, what they see of each model is resolved. -/
theorem seesResolved_of_remarks (quiet : (generator.remarks models).result = .ok [])
    (member : model ∈ models) : generator.SeesResolved model := by
  obtain ⟨found, remarked, last⟩ := Report.result_bind_eq_ok.1 quiet
  have told := Except.ok.inj last
  simp only [List.append_eq_nil_iff] at told
  obtain ⟨⟨⟨-, onModels⟩, -⟩, -⟩ := told
  obtain ⟨⟨remarks, types⟩, there, made⟩ := Report.exists_of_mem_mapM remarked member
  have none : remarks = [] := List.flatMap_eq_nil_iff.1 onModels _ there
  rw [none] at made
  exact seesResolved_of_modelRemarks made

/-! ## What remarks leave open -/

/-- Of a member that the remarks see only its inner references can be missing. -/
theorem firstUnregistered_innerReferences (sees : generator.SeesResolved model) {shape : Schema}
    (member : shape ∈ model.memberShapes) :
    firstUnregistered generator.types.models shape.references =
      firstUnregistered generator.types.models shape.innerReferences := by
  cases shape with
  | reference name =>
    have registered : name ∈ generator.types.models :=
      List.contains_iff_mem.1 (sees.members name member)
    refine firstUnregistered_eq_none.2 fun other there => ?_
    rwa [List.mem_singleton.1 there]
  | _ => rfl

/-- Of a model that the remarks see only references inside members of its union can be missing. -/
theorem firstUnregistered_references (sees : generator.SeesResolved model) :
    firstUnregistered generator.types.models model.references =
      firstUnregistered generator.types.models model.innerReferences := by
  have fields : firstUnregistered generator.types.models
      (model.fields.flatMap (·.schema.references)) = none := by
    refine firstUnregistered_eq_none.2 fun name member => ?_
    obtain ⟨field, there, refers⟩ := List.mem_flatMap.1 member
    obtain ⟨type, resolved⟩ := sees.fields field there
    exact (generator.types.resolve_consults field.schema).registered resolved name refers
  have members : ∀ shapes ⊆ model.memberShapes,
      firstUnregistered generator.types.models (shapes.flatMap Schema.references) =
        firstUnregistered generator.types.models (shapes.flatMap Schema.innerReferences) := by
    intro shapes within
    induction shapes with
    | nil => rfl
    | cons shape rest ih =>
      obtain ⟨here, later⟩ := List.cons_subset.1 within
      rw [List.flatMap_cons, List.flatMap_cons, firstUnregistered_append,
        firstUnregistered_append, firstUnregistered_innerReferences sees here, ih later]
  rw [model.references_eq, firstUnregistered_append, fields, Option.none_or,
    members _ (List.Subset.refl _)]
  rfl

/-- Where no table of overrides has a blank entry and there are no remarks on some models, all of
them can be processed exactly where every reference inside a member of a union of theirs is
registered. A model that cannot be processed fails with the first of these that is not. -/
theorem remarks_foresee_iff (noBlanks : generator.NoBlankOverrides)
    (quiet : (generator.remarks models).result = .ok []) :
    ((∀ model ∈ models, (generator.processModel model).Succeeds) ↔
      ∀ model ∈ models, ∀ name ∈ model.innerReferences,
        generator.types.isRegistered name = true) ∧
    ∀ model ∈ models, ∀ error, (generator.processModel model).result = .error error →
      ∃ name, model.innerReferences.find? (!generator.types.isRegistered ·) = some name ∧
        error = ⟨name, .unregisteredModel⟩ := by
  constructor
  · refine forall₂_congr fun model member => ?_
    have sees := seesResolved_of_remarks quiet member
    have consults := generator.processModel_consults model
    refine (consults.succeeds_iff noBlanks generator.types.models).trans ?_
    rw [← firstUnregistered_eq_none, firstUnregistered_references sees, firstUnregistered_eq_none]
    simp only [TypeResolver.isRegistered, List.contains_iff_mem]
  · intro model member error failed
    have sees := seesResolved_of_remarks quiet member
    have consults := generator.processModel_consults model
    obtain ⟨name, found, told⟩ := consults.unregistered noBlanks failed
    rw [firstUnregistered_references sees] at found
    exact ⟨name, found, told⟩

/-- Under the default settings there are no remarks on a union of lists of itself once it is
registered, and it can be processed. -/
theorem nested_members_foreseen :
    let pets : Model := {
      name := "Pets"
      composition := some {
        kind := .oneOf, modelName := none
        members := [.array (.reference "Pets") false, .reference "Pets", .primitive "null"] } }
    (((plain {}).register [pets]).remarks [pets]).result = .ok [] ∧
      (((plain {}).register [pets]).processModel pets).Succeeds := by
  have noBlanks (models : List Model) : ((plain {}).register models).NoBlankOverrides :=
    noBlankOverrides_plain
  refine ⟨rfl, (remarks_foresee_iff (noBlanks _) ?quiet).1.2 ?inner _ (List.mem_singleton_self _)⟩
  case quiet => rfl
  case inner =>
    intro model member name inside
    rw [List.mem_singleton.1 member] at inside
    rw [List.mem_singleton.1 inside]
    rfl

/-- There are no remarks on a union of lists of a model that is not registered, but it cannot be
processed. -/
theorem missing_elements_unforeseen :
    let dogs : Model := {
      name := "Dogs"
      composition := some {
        kind := .oneOf, modelName := none, members := [.array (.reference "Dog") false] } }
    (plain {}).NoBlankOverrides ∧ ((plain {}).remarks [dogs]).result = .ok [] ∧
      ((plain {}).processModel dogs).result = .error ⟨"Dog", .unregisteredModel⟩ :=
  ⟨noBlankOverrides_plain, rfl, rfl⟩

end Generator

end GoBindings
