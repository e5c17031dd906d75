import GoBindings.Proofs.Runs.ModelImports
import GoBindings.Proofs.Types.FieldNames
import Mathlib.Data.List.Nodup

/-!
# Fields of unions

The struct of a union has one field for each type of its members, named after the type. The main
statement: the fields of a union have different names exactly where no two types of its members
share one.
-/

namespace GoBindings

/-! ## Trees of schemas -/

section Trees

variable {naming : Naming} (noModels : naming.settings.modelNameMapping = Table.empty)

include noModels

/-- The tree of a model has a type at its leaf. -/
theorem Naming.hasTypeNames_modelTree {raw : String} {tree : TypeTree}
    (computed : naming.modelTree raw = .ok tree) : tree.HasTypeNames := by
  rw [modelTree] at computed
  cases named : (naming.modelTypeName raw).result with
  | error error => rw [named] at computed; cases computed
  | ok name =>
    rw [named] at computed
    cases computed
    exact .inl (isTypeName_of_modelTypeName noModels named)

/-- The tree of a token has types at its leaves. -/
theorem Naming.hasTypeNames_tokenTree {token : String} {tree : TypeTree}
    (computed : naming.tokenTree token = .ok tree) : tree.HasTypeNames := by
  rw [tokenTree] at computed
  cases known : builtinType? token with
  | some name =>
    rw [known] at computed
    cases computed
    exact TypeTree.hasTypeNames_ofDeclaration (mem_builtinDeclarations known)
  | none =>
    rw [known] at computed
    exact hasTypeNames_modelTree noModels computed

/-- The tree of a schema has types at its leaves. -/
theorem Schema.hasTypeNames_tree {schema : Schema} {tree : TypeTree}
    (computed : schema.tree naming = .ok tree) : tree.HasTypeNames := by
  fun_induction Schema.tree naming schema generalizing tree with
  | case1 | case2 | case3 | case5 | case9 | case12 =>
    cases computed
    trivial
  | case4 token | case10 token => exact Naming.hasTypeNames_tokenTree noModels computed
  | case6 element nullable specified ih =>
    cases inner : element.tree naming with
    | error error => rw [inner] at computed; cases computed
    | ok part =>
      rw [inner] at computed
      cases computed
      have types : part.HasTypeNames := ih inner
      exact types
  | case7 value container ih =>
    cases inner : value.tree naming with
    | error error => rw [inner] at computed; cases computed
    | ok part =>
      rw [inner] at computed
      cases computed
      have types : part.HasTypeNames := ih inner
      exact types
  | case8 name | case11 kind members modelName name =>
    exact Naming.hasTypeNames_modelTree noModels computed

/-- The trees of several schemas have types at their leaves. -/
theorem Schema.hasTypeNames_of_mapM {schemas : List Schema} {trees : List TypeTree}
    (computed : schemas.mapM (Schema.tree naming) = .ok trees) :
    ∀ tree ∈ trees, tree.HasTypeNames := by
  induction schemas generalizing trees with
  | nil =>
    cases computed
    exact fun _ member => absurd member List.not_mem_nil
  | cons schema rest ih =>
    rw [List.mapM_cons] at computed
    cases first : schema.tree naming with
    | error error => rw [first] at computed; cases computed
    | ok tree =>
      cases later : rest.mapM (Schema.tree naming) with
      | error error => rw [first, later] at computed; cases computed
      | ok others =>
        rw [first, later] at computed
        cases computed
        exact List.forall_mem_cons.2 ⟨Schema.hasTypeNames_tree noModels first, ih later⟩

end Trees

/-! ## Fields of records -/

/-- A list without its duplicates has none. -/
theorem nodup_eraseDups {α : Type} [BEq α] [LawfulBEq α] (items : List α) :
    items.eraseDups.Nodup := by
  induction bound : items.length using Nat.strongRecOn generalizing items with
  | ind count ih =>
    cases items with
    | nil => exact List.nodup_nil
    | cons a rest =>
      have shorter : (rest.filter fun b => !b == a).length < count := by
        have few := List.length_filter_le (fun b => !b == a) rest
        rw [List.length_cons] at bound
        omega
      rw [List.eraseDups_cons, List.nodup_cons]
      refine ⟨fun member => ?_, ih _ shorter _ rfl⟩
      rw [List.mem_eraseDups, List.mem_filter] at member
      simp at member

namespace Generator

/-- The record of a union has the different types of its members, each with its field. -/
theorem members_recordOf {generator : Generator} (default : generator.types.IsDefault)
    {model : Model} {parts : RecordParts} (computes : generator.Computes model parts)
    {composition : Composition} (composed : model.composition = some composition)
    (union : composition.kind ≠ .allOf)
    (plain : ∀ member ∈ composition.members, member.HasPlainMaps) :
    ∃ trees, composition.shapes.mapM (Schema.tree generator.naming) = .ok trees ∧
      (∀ tree ∈ trees, tree.HasTypeNames) ∧
      (generator.recordOf model parts).members = trees.eraseDups.map TypeTree.unionMember := by
  rcases union?_eq_ok computes.union with ⟨-, noUnion⟩ |
    ⟨found, made, names, present, given, -, kind, -, declared, each⟩
  · rw [composed, Option.any_some, bne_eq_false_iff_eq] at noUnion
    exact absurd noUnion union
  · cases composed.symm.trans present
    have shapes : ∀ shape ∈ composition.shapes, shape.HasPlainMaps := by
      intro shape member
      rw [Composition.shapes, if_neg union] at member
      exact plain shape (List.mem_filter.1 member).1
    obtain ⟨trees, computed, leaves, rfl⟩ := TypeResolver.spells_of_mapM default shapes declared
    have types := Schema.hasTypeNames_of_mapM default.models computed
    have once : (trees.map TypeTree.spelling).eraseDups = trees.eraseDups.map TypeTree.spelling :=
      eraseDups_map_of_injOn fun tree member other there =>
        (TypeTree.spelling_inj (leaves tree member) (leaves other there)).1
    have members : (generator.recordOf model parts).members = (unionDeclarations parts.union).map
        fun declaration => ⟨unionFieldName declaration, declaration⟩ := rfl
    refine ⟨trees, computed, types, ?_⟩
    rw [members, given, unionDeclarations, declarationsOf_append (kind ▸ union), each, once,
      List.map_map]
    refine List.map_congr_left fun tree member => ?_
    have field := TypeTree.unionFieldName_spelling (types tree (List.mem_eraseDups.1 member))
    rw [Function.comp_apply, field]
    rfl

/-- Under settings that override neither types nor names of models, the record of a union whose maps
are plain has one field for each different type of its members other than null. Their names are
different exactly where no two of these types share a field. -/
theorem unionFields_nodup_iff {settings : GoSettings}
    (noTypes : settings.typeMapping = Table.empty)
    (noModels : settings.modelNameMapping = Table.empty) {generator : Generator}
    (built : ofSettings settings = .ok generator) (registered : List Model) {model : Model}
    {composition : Composition} (composed : model.composition = some composition)
    (union : composition.kind ≠ .allOf)
    (plain : ∀ member ∈ composition.members, member.HasPlainMaps) {record : GoModel}
    (made : ((generator.register registered).processModel model).result = .ok record) :
    ∃ trees, composition.shapes.mapM (Schema.tree generator.naming) = .ok trees ∧
      record.members = trees.eraseDups.map TypeTree.unionMember ∧
      ((record.members.map UnionMember.fieldName).Nodup ↔
        ∀ tree ∈ trees, ∀ other ∈ trees, tree.SharesField other → tree = other) := by
  obtain ⟨-, fresh⟩ := isDefault_of_ofSettings noTypes noModels built
  have default : (generator.register registered).types.IsDefault := ⟨fresh.types, fresh.models⟩
  obtain ⟨parts, computes, rfl⟩ := exists_parts made
  obtain ⟨trees, computed, types, members⟩ :=
    members_recordOf default computes composed union plain
  have fields : ((generator.register registered).recordOf model parts).members.map
      UnionMember.fieldName = trees.eraseDups.map TypeTree.fieldName := by
    rw [members, List.map_map]
    rfl
  refine ⟨trees, computed, members, ?_⟩
  rw [fields, List.nodup_map_iff_inj_on (nodup_eraseDups trees)]
  simp only [List.mem_eraseDups]
  refine forall₂_congr fun tree member => forall₂_congr fun other there => ?_
  rw [TypeTree.fieldName_eq_iff_sharesField (types tree member) (types other there)]

/-- Under the default settings a union of a text, a model, a list of lists of it and a map of lists
of times has different fields. -/
theorem nested_members_apart :
    let values : Model := {
      name := "Values"
      composition := some {
        kind := .oneOf, modelName := none
        members := [.primitive "string", .composed .anyOf [] (some "Pet"), .primitive "null",
          .array (.array (.composed .anyOf [] (some "Pet")) true) false,
          .map (.array (.primitive "date") true) none] } }
    ∃ record, (((plain {}).register [values]).processModel values).result = .ok record ∧
      (record.members.map UnionMember.fieldName).Nodup := by
  intro values
  have built : ofSettings {} = .ok (plain {}) :=
    ofSettings_eq_plain ⟨rfl, rfl, rfl, rfl, rfl⟩ rfl rfl
  obtain ⟨record, made⟩ : (((plain {}).register [values]).processModel values).Succeeds := by
    refine (((plain {}).processModel_consults values).succeeds_iff noBlankOverrides_plain _).2 ?_
    exact fun name member => absurd member List.not_mem_nil
  have composed : values.composition = some _ := rfl
  obtain ⟨trees, computed, -, apart⟩ := unionFields_nodup_iff rfl rfl built [values] composed
    (by decide) (by simp [Schema.HasPlainMaps]) made
  have spelt : trees = [.leaf "string", .leaf "Pet", .slice false (.slice true (.leaf "Pet")),
      .map (.slice true (.leaf "time.Time"))] := (Except.ok.inj computed).symm
  refine ⟨record, made, apart.2 ?_⟩
  rw [spelt]
  decide

/-- Under the default settings the fields of a union of texts in lists, one of which holds pointers,
have one name. -/
theorem pointers_share_field :
    let texts : Model := {
      name := "Texts"
      composition := some {
        kind := .oneOf, modelName := none
        members := [.array (.primitive "string") false, .array (.primitive "string") true] } }
    ofSettings {} = .ok (plain {}) ∧
      ∃ record, ((plain {}).processModel texts).result = .ok record ∧
        record.members = [⟨"ArrayOfString", "[]string"⟩, ⟨"ArrayOfString", "[]*string"⟩] ∧
        ¬ (record.members.map UnionMember.fieldName).Nodup := by
  refine ⟨ofSettings_eq_plain ⟨rfl, rfl, rfl, rfl, rfl⟩ rfl rfl, ?_⟩
  refine ⟨_, rfl, rfl, ?_⟩
  decide

end Generator

end GoBindings
