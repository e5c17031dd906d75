import GoBindings.Generator
import GoBindings.Proofs.Naming.Overrides
import GoBindings.Proofs.Runs.Consultation

/-!
# References of schemas, models and operations

The references that a run meets, in the order in which it meets them. A schema is searched through
elements and values only: the backing of an enumeration is no reference, a composition inside a
schema is taken by its name, and the members of an `allOf` are never looked at. Each step of a run
consults the registered models about just these names.
-/

namespace GoBindings

/-! ## What is referred to -/

/-- The references that the resolution of a schema meets. -/
def Schema.references : Schema → List String
  | .reference name => [name]
  | .array element _ => element.references
  | .map value _ => value.references
  | _ => []

/-- The references of the members of a union. -/
def Composition.references (composition : Composition) : List String :=
  if composition.kind = .allOf then []
  else (composition.members.filter (!·.isNull)).flatMap Schema.references

/-- The references of a model: those of its fields and those of its composition. -/
def Model.references (model : Model) : List String :=
  model.fields.flatMap (·.schema.references) ++
    model.composition.elim [] Composition.references

/-- The references of an operation: those of its parameters and those of its answer. -/
def Operation.references (operation : Operation) : List String :=
  operation.parameters.flatMap (·.schema.references) ++
    operation.returnType.elim [] Schema.references

/-- The references of a run: those of its models and those of its groups of operations. -/
def runReferences (models : List Model) (groups : Table String (List Operation)) : List String :=
  models.flatMap Model.references ++
    groups.entries.flatMap fun (_, operations) => operations.flatMap Operation.references

/-! ## Schemas -/

/-- The resolver with just the given models. -/
def TypeResolver.withModels (resolver : TypeResolver) (models : List String) : TypeResolver :=
  { resolver with models }

namespace TypeResolver

variable (resolver : TypeResolver)

/-- A primitive token has a type. -/
theorem resolvePrimitive_succeeds (noBlanks : resolver.naming.settings.NoBlankOverrides)
    (token : String) : (resolver.resolvePrimitive token).Succeeds := by
  rw [resolvePrimitive]
  cases resolver.declaration? token with
  | some name => exact Report.succeeds_pure _
  | none => exact (Naming.modelTypeName_succeeds noBlanks token).map GoType.model

/-- A composition has a type. -/
theorem resolveComposition_succeeds (noBlanks : resolver.naming.settings.NoBlankOverrides)
    (kind : CompositionKind) (modelName : Option String) :
    (resolver.resolveComposition kind modelName).Succeeds := by
  rw [resolveComposition]
  cases modelName.filter (!·.isEmpty) with
  | some name => exact (Naming.modelTypeName_succeeds noBlanks name).map GoType.model
  | none => exact Report.succeeds_pure _

/-- A reference to a registered model has the type of that model. -/
theorem resolveReference_of_mem {resolver : TypeResolver} {name : String}
    (present : name ∈ resolver.models) :
    resolver.resolveReference name = GoType.model <$> resolver.naming.modelTypeName name :=
  if_pos (List.contains_iff_mem.2 present)

/-- A reference to any other model fails. -/
theorem resolveReference_of_not_mem {resolver : TypeResolver} {name : String}
    (absent : name ∉ resolver.models) :
    resolver.resolveReference name = .fail ⟨name, .unregisteredModel⟩ :=
  if_neg fun present => absent (List.contains_iff_mem.1 present)

/-- A reference consults the registered models about its name. -/
theorem resolveReference_consults (name : String) :
    Consults resolver.naming.settings.NoBlankOverrides [name]
      fun models => (resolver.withModels models).resolveReference name where
  agrees {models others} agree := by
    have same : name ∈ models ↔ name ∈ others := agree name List.mem_cons_self
    by_cases present : name ∈ others
    · rw [resolveReference_of_mem (same.2 present), resolveReference_of_mem present]
      rfl
    · rw [resolveReference_of_not_mem fun other => present (same.1 other),
        resolveReference_of_not_mem present]
  registered {models type} done other member := by
    rw [List.mem_singleton.1 member]
    by_cases present : name ∈ models
    · exact present
    · rw [resolveReference_of_not_mem present] at done
      cases done
  unregistered noBlanks {models error} failed := by
    by_cases present : name ∈ models
    · obtain ⟨type, done⟩ := (Naming.modelTypeName_succeeds noBlanks name).map GoType.model
      rw [resolveReference_of_mem present] at failed
      cases done.symm.trans failed
    · rw [resolveReference_of_not_mem present] at failed
      cases failed
      exact ⟨name, by simp [firstUnregistered, present], rfl⟩

/-- The resolution of a schema consults the registered models about the references of the schema. A
list and a map hand on what their parts look up, and all other schemas but a reference look up
nothing. -/
theorem resolve_consults (schema : Schema) :
    Consults resolver.naming.settings.NoBlankOverrides schema.references
      fun models => (resolver.withModels models).resolve schema := by
  induction schema using resolve.induct with simp only [resolve, Schema.references]
  | case1 | case3 | case7 | case8 => exact Consults.pure _
  | case2 token | case9 token =>
    exact Consults.report fun noBlanks => resolver.resolvePrimitive_succeeds noBlanks token
  | case4 _ _ _ ih | case5 _ _ ih => exact ih.andThen fun _ => Consults.pure _
  | case6 name => exact resolver.resolveReference_consults name
  | case10 kind _ modelName =>
    exact Consults.report fun noBlanks =>
      resolver.resolveComposition_succeeds noBlanks kind modelName
  | case11 => exact Consults.report fun _ => ⟨_, rfl⟩

/-- The resolution of several schemas consults about the references of each. -/
theorem resolveAll_consults (schemas : List Schema) :
    Consults resolver.naming.settings.NoBlankOverrides (schemas.flatMap Schema.references)
      fun models => (resolver.withModels models).resolveAll schemas :=
  Consults.mapM fun schema _ => resolver.resolve_consults schema

end TypeResolver

/-! ## Models -/

/-- The generator with just the given models registered. -/
def Generator.withModels (generator : Generator) (models : List String) : Generator :=
  { generator with types := generator.types.withModels models }

namespace Generator

variable (generator : Generator)

/-- The registration leaves the settings. -/
@[simp] theorem settings_withModels (models : List String) :
    (generator.withModels models).settings = generator.settings := rfl

/-- The registration leaves the rules for names. -/
@[simp] theorem naming_withModels (models : List String) :
    (generator.withModels models).naming = generator.naming := rfl

/-- The registration is that of the resolver. -/
@[simp] theorem types_withModels (models : List String) :
    (generator.withModels models).types = generator.types.withModels models := rfl

/-- The imports of a model file do not depend on the registration. -/
@[simp] theorem importsOf_withModels (models : List String) :
    (generator.withModels models).importsOf = generator.importsOf := rfl

/-- No table of overrides has a blank entry, so only an unregistered model can make a run fail. -/
def NoBlankOverrides : Prop := generator.naming.settings.NoBlankOverrides

/-- A property with an inline enumeration has a name for it. -/
theorem inlineEnumName_succeeds (noBlanks : generator.NoBlankOverrides) (field : Field) :
    (generator.inlineEnumName field).Succeeds := by
  rw [inlineEnumName]
  split
  · exact (Naming.enumTypeName_succeeds noBlanks field.baseName).map some
  · exact Report.succeeds_pure none

/-- A property consults about the references of its schema. -/
theorem processField_consults (field : Field) :
    Consults generator.NoBlankOverrides field.schema.references
      fun models => (generator.withModels models).processField field := by
  simp only [processField, settings_withModels, naming_withModels, types_withModels]
  refine (generator.types.resolve_consults field.schema).andThen fun type => ?_
  refine (Consults.report fun noBlanks =>
    generator.inlineEnumName_succeeds noBlanks field).andThen fun enumName => ?_
  refine (Consults.report fun noBlanks =>
    Naming.fieldName_succeeds noBlanks field.baseName).andThen fun name => ?_
  exact Consults.pure _

/-- A composition consults about the references of its members, which it resolves twice. -/
theorem union?_consults (composition : Option Composition) :
    Consults generator.NoBlankOverrides (composition.elim [] Composition.references)
      fun models => (generator.withModels models).union? composition := by
  cases composition with
  | none => exact Consults.pure none
  | some composition =>
    simp only [union?, Option.elim_some, Composition.references]
    split
    · exact Consults.pure none
    · have types := generator.types.resolveAll_consults (composition.members.filter (!·.isNull))
      refine Consults.of_twice (types.bind fun found => ?_)
      have declarations : Consults generator.NoBlankOverrides
          ((composition.members.filter (!·.isNull)).flatMap Schema.references)
          fun models => (composition.members.filter (!·.isNull)).mapM
            (generator.types.withModels models).declaration :=
        Consults.mapM fun member _ => (generator.types.resolve_consults member).map GoType.name
      exact (declarations.andThen fun _ => Consults.pure _).andThen fun _ => Consults.pure _

/-- An enumeration consults about nothing. -/
theorem processEnumeration_consults (enumeration : Option Enumeration) :
    Consults generator.NoBlankOverrides []
      fun models => (generator.withModels models).processEnumeration enumeration := by
  cases enumeration with
  | none => exact Consults.pure (none, [])
  | some enumeration =>
    simp only [processEnumeration]
    have datatype := (generator.types.resolve_consults (.primitive enumeration.backing)).map
      GoType.name
    refine datatype.andThen fun datatype => ?_
    refine Consults.andThen (Consults.mapM_nil fun value _ => ?_) fun constants => Consults.pure _
    exact (Consults.report fun noBlanks =>
      Naming.enumConstantName_succeeds noBlanks value datatype).andThen fun name => Consults.pure _

/-- A model consults about the references of its fields and of its composition. -/
theorem processModel_consults (model : Model) :
    Consults generator.NoBlankOverrides model.references
      fun models => (generator.withModels models).processModel model := by
  simp only [processModel, settings_withModels, naming_withModels, importsOf_withModels,
    Model.references]
  have fields : Consults generator.NoBlankOverrides (model.fields.flatMap (·.schema.references))
      fun models => model.fields.mapM (generator.withModels models).processField :=
    Consults.mapM fun field _ => generator.processField_consults field
  have union := generator.union?_consults model.composition
  have typeName := Consults.report fun noBlanks : generator.NoBlankOverrides =>
    Naming.modelTypeName_succeeds noBlanks model.name
  have fileName := Consults.report fun noBlanks : generator.NoBlankOverrides =>
    Naming.modelFileName_succeeds noBlanks model.name
  refine typeName.bind fun name => ?_
  refine fields.bind fun found => ?_
  refine union.andThen fun members => ?_
  refine (generator.processEnumeration_consults model.enumeration).andThen fun constants => ?_
  exact fileName.andThen fun file => Consults.pure _

/-! ## Operations -/

/-- A parameter of a known type consults about nothing. -/
theorem parameterOfType_consults (parameter : Parameter) (type : GoType) :
    Consults generator.NoBlankOverrides []
      fun models => (generator.withModels models).parameterOfType parameter type := by
  simp only [parameterOfType, naming_withModels]
  have name := Consults.report fun noBlanks : generator.NoBlankOverrides =>
    Naming.parameterName_succeeds noBlanks parameter.rawName
  exact name.andThen fun label => Consults.pure _

/-- The types of an operation consult about its references. -/
theorem typeOperation_consults (operation : Operation) :
    Consults generator.NoBlankOverrides operation.references
      fun models => (generator.withModels models).typeOperation operation := by
  simp only [typeOperation, types_withModels, Operation.references]
  have parameters := generator.types.resolveAll_consults
    (operation.parameters.map Parameter.schema)
  rw [List.flatMap_map] at parameters
  have answer : Consults generator.NoBlankOverrides
      (operation.returnType.elim [] Schema.references)
      fun models => operation.returnType.mapM (generator.types.withModels models).resolve := by
    cases operation.returnType with
    | none => exact Consults.pure none
    | some schema => exact (generator.types.resolve_consults schema).map some
  exact parameters.bind fun types => answer.andThen fun type => Consults.pure _

/-- An operation consults about its references. -/
theorem processOperation_consults (operation : Operation) :
    Consults generator.NoBlankOverrides operation.references
      fun models => (generator.withModels models).processOperation operation := by
  simp only [processOperation, naming_withModels]
  refine (generator.typeOperation_consults operation).andThen fun typed => ?_
  refine (Consults.report fun _ => ⟨_, rfl⟩).andThen fun nickname => ?_
  have parameters : Consults generator.NoBlankOverrides []
      fun models => (operation.parameters.zip typed.parameterTypes).mapM
        fun entry => (generator.withModels models).parameterOfType entry.1 entry.2 :=
    Consults.mapM_nil fun entry _ => generator.parameterOfType_consults entry.1 entry.2
  exact parameters.andThen fun found => Consults.pure _

/-- A group of operations consults about the references of its operations. -/
theorem processOperations_consults (group : String) (operations : List Operation) :
    Consults generator.NoBlankOverrides (operations.flatMap Operation.references)
      fun models => (generator.withModels models).processOperations group operations := by
  simp only [processOperations, settings_withModels]
  have processed : Consults generator.NoBlankOverrides (operations.flatMap Operation.references)
      fun models => operations.mapM (generator.withModels models).processOperation :=
    Consults.mapM fun operation _ => generator.processOperation_consults operation
  refine processed.andThen fun records => ?_
  exact Consults.report fun _ => ⟨_, rfl⟩

/-! ## Remarks -/

/-- The remarks on a property fail as its field name does: a type that cannot be resolved is
remarked upon. -/
theorem fieldRemarks_fault? (model : Model) (field : Field) :
    (generator.fieldRemarks model field).fault? =
      (generator.naming.fieldName field.baseName).fault? := by
  rw [fieldRemarks, Report.fault?_attempt_bind, Report.fault?_bind_pure]

/-- The remarks on some models fail as their first field name that fails. -/
theorem remarks_fault? (models : List Model) :
    (generator.remarks models).fault? = models.findSome? fun model =>
      model.fields.findSome? fun field => (generator.naming.fieldName field.baseName).fault? := by
  rw [remarks, Report.fault?_bind_pure, Report.fault?_mapM]
  simp only [modelRemarks, Report.fault?_bind_pure, Report.fault?_mapM, fieldRemarks_fault?]

/-- Whether the remarks fail is not decided by the registered models. -/
theorem discard_remarks_consults (models : List Model) :
    Consults generator.NoBlankOverrides []
      fun names => Functor.discard ((generator.withModels names).remarks models) := by
  refine Consults.constant (fun names others => ?_) fun noBlanks names => ?_
  · simp only [Report.result_discard, remarks_fault?, naming_withModels]
  · have named (field : Field) : (generator.naming.fieldName field.baseName).fault? = none :=
      Report.fault?_eq_none.2 (Naming.fieldName_succeeds noBlanks field.baseName)
    have unfailing : ((generator.withModels names).remarks models).fault? = none := by
      rw [remarks_fault?, naming_withModels]
      simp [named]
    exact ⟨(), by rw [Report.result_discard, unfailing]; rfl⟩

/-! ## Runs -/

/-- The records of a run, the remarks dropped. -/
def records (generator : Generator) (models : List Model)
    (groups : Table String (List Operation)) :
    Report InvalidMapping (List GoModel × List GoApi) := do
  Functor.discard (generator.remarks models)
  let modelRecords ← models.mapM generator.processModel
  let groupRecords ← groups.entries.mapM fun (group, operations) =>
    generator.processOperations group operations
  return (modelRecords, groupRecords)

/-- A run consults about the references of its models and groups. -/
theorem records_consults (models : List Model) (groups : Table String (List Operation)) :
    Consults generator.NoBlankOverrides (runReferences models groups)
      fun names => (generator.withModels names).records models groups := by
  have modelRecords : Consults generator.NoBlankOverrides (models.flatMap Model.references)
      fun names => models.mapM (generator.withModels names).processModel :=
    Consults.mapM fun model _ => generator.processModel_consults model
  have groupRecords : Consults generator.NoBlankOverrides
      (groups.entries.flatMap fun (_, operations) => operations.flatMap Operation.references)
      fun names => groups.entries.mapM fun (group, operations) =>
        (generator.withModels names).processOperations group operations :=
    Consults.mapM fun entry _ => generator.processOperations_consults entry.1 entry.2
  refine (generator.discard_remarks_consults models).bind fun _ => ?_
  exact modelRecords.bind fun found => groupRecords.andThen fun made => Consults.pure (found, made)

end Generator

end GoBindings
