import GoBindings.ModelFile
import GoBindings.Proofs.Imports
import GoBindings.Proofs.Runs.Outcome
import GoBindings.Proofs.Runs.Records
import GoBindings.Proofs.Types.Qualifiers
import Mathlib.Logic.Basic

/-!
# Packages of model files

The file of a model prints the types of its enumeration, of its members or of its fields, and it
imports the packages of its members or of its fields. The two choices are made apart. The main
statement says for which models every package that a printed type names is imported: it may be
missing for the values of an enumeration, and for the fields of a union that has no members but
null, and for nothing else.
-/

namespace GoBindings

/-! ## What is printed -/

/-- The declarations of types that the file of a model prints. -/
def GoModel.printedTypes (model : GoModel) : List String :=
  if model.isEnum then model.enumDataType.toList
  else if model.oneOf.isEmpty && model.anyOf.isEmpty then model.fields.map GoField.dataType
  else model.members.map UnionMember.declaration

namespace ModelFile

/-- What stands in a line of a struct stands in its declaration. -/
theorem infix_structBlock (name : String) {lines : List String} {text : String}
    (member : text ∈ lines) {part : List Char} (inside : part <:+: text.toList) :
    part <:+: (structBlock name lines).toList := by
  have joined : text.toList <:+: (String.join lines).toList := by
    obtain ⟨before, after, rfl⟩ := List.append_of_mem member
    rw [String.toList_join, List.flatMap_append, List.flatMap_cons, ← List.append_assoc]
    exact List.infix_append _ _ _
  rw [structBlock, String.toList_append, String.toList_append]
  exact (inside.trans joined).trans (List.infix_append _ _ _)

/-- The file of a model prints the types that it is said to print. -/
theorem infix_render {model : GoModel} {type : String} (printed : type ∈ model.printedTypes)
    (packageName : String) (classPrefix : Bool) :
    type.toList <:+: (render packageName classPrefix model).toList := by
  have declared : type.toList <:+: (declaration classPrefix model).toList := by
    rw [GoModel.printedTypes] at printed
    rw [declaration]
    split at printed
    · rename_i listed
      have head : type.toList <:+: (line ("type " ++ model.name ++ " " ++ type)).toList :=
        ⟨("type " ++ model.name ++ " ").toList, ['\n'], by simp [line]⟩
      rw [if_pos listed, enumBlock, Option.mem_toList.1 printed, Option.getD_some]
      refine head.trans ?_
      simp only [String.toList_append, List.append_assoc]
      exact (List.prefix_append _ _).isInfix
    · rename_i unlisted
      rw [if_neg unlisted]
      split at printed
      · rename_i noUnion
        rw [if_pos noUnion]
        obtain ⟨field, member, rfl⟩ := List.mem_map.1 printed
        refine infix_structBlock model.name (List.mem_map_of_mem member) ?_
        rw [fieldLines, String.toList_append]
        have inLine : field.dataType.toList <:+: (fieldLine field).toList :=
          ⟨("\t" ++ field.name.text ++ " " ++
              if field.isNullable && !field.isContainerLike then "*" else "").toList,
            (" " ++ field.tag ++ "\n").toList, by simp [fieldLine, line]⟩
        exact inLine.trans (List.suffix_append _ _).isInfix
      · rename_i union
        rw [if_neg union]
        obtain ⟨unionMember, member, rfl⟩ := List.mem_map.1 printed
        refine infix_structBlock model.name (List.mem_map_of_mem member) ?_
        exact ⟨("\t" ++ unionMember.fieldName ++ " *").toList, ['\n'], by simp [memberLine, line]⟩
  rw [render, String.toList_append]
  exact declared.trans (List.suffix_append _ _).isInfix

end ModelFile

/-! ## What is needed -/

/-- The shapes of the members of a union other than null. Those of which every one holds are no
union. -/
def Composition.shapes (composition : Composition) : List Schema :=
  if composition.kind = .allOf then [] else composition.members.filter (!·.isNull)

namespace Model

/-- Whether a model is a union. -/
def isUnion (model : Model) : Bool :=
  model.composition.any fun composition => composition.kind != .allOf

/-- The shapes of the members of the union that a model is. -/
def memberShapes (model : Model) : List Schema := model.composition.elim [] Composition.shapes

/-- The shapes of the fields of a model. -/
def fieldShapes (model : Model) : List Schema := model.fields.map Field.schema

/-- The shapes whose packages the file of a model imports. -/
def importedShapes (model : Model) : List Schema :=
  if model.isUnion then model.memberShapes else model.fieldShapes

/-- The shapes whose types the file of a model prints. -/
def printedShapes (model : Model) : List Schema :=
  match model.enumeration with
  | some enumeration => [.primitive enumeration.backing]
  | none => if model.memberShapes.isEmpty then model.fieldShapes else model.memberShapes

/-- Whether a package came with a model and is kept. -/
def Attaches (settings : Settings) (model : Model) (package : String) : Prop :=
  package ∈ model.imports ∧
    ImportSet.isUnder settings.modelPackage.content (.ofText package) = false

/-- A model whose maps are of the type that maps have. -/
def HasPlainMaps (model : Model) : Prop :=
  ∀ shape ∈ model.fieldShapes ++ model.memberShapes, shape.HasPlainMaps

/-- A model that needs no package for an enumeration or for a union without members that it does not
bring along. -/
structure SuppliesPackages (settings : Settings) (model : Model) : Prop where
  /-- The packages of the values of an enumeration come with the model or are those of a shape that
  the file imports. -/
  enumeration : ∀ enumeration, model.enumeration = some enumeration →
    ∀ package ∈ tokenPackages enumeration.backing,
      model.Attaches settings package ∨ ∃ shape ∈ model.importedShapes, package ∈ shape.packages
  /-- The packages of the fields of a union without members come with the model. -/
  emptyUnion : model.enumeration = none → model.isUnion = true → model.memberShapes = [] →
    ∀ shape ∈ model.fieldShapes, ∀ package ∈ shape.packages, model.Attaches settings package

/-- The fields of a model whose maps are plain have plain maps. -/
theorem HasPlainMaps.of_field {model : Model} (plain : model.HasPlainMaps) {field : Field}
    (member : field ∈ model.fields) : field.schema.HasPlainMaps :=
  plain _ (List.mem_append_left _ (List.mem_map_of_mem member))

/-- The members of a model whose maps are plain have plain maps. -/
theorem HasPlainMaps.of_memberShape {model : Model} (plain : model.HasPlainMaps) {shape : Schema}
    (member : shape ∈ model.memberShapes) : shape.HasPlainMaps :=
  plain _ (List.mem_append_right _ member)

/-- The members of a model are those of its composition. -/
theorem memberShapes_of_composition {model : Model} {composed : Composition}
    (composition : model.composition = some composed) : model.memberShapes = composed.shapes := by
  rw [memberShapes, composition]
  rfl

/-- A model that is no union has no members. -/
theorem memberShapes_of_not_isUnion {model : Model} (noUnion : model.isUnion = false) :
    model.memberShapes = [] := by
  rw [isUnion] at noUnion
  rw [memberShapes]
  cases composition : model.composition with
  | none => rfl
  | some composed =>
    rw [composition, Option.any_some, bne_eq_false_iff_eq] at noUnion
    exact if_pos noUnion

/-- A model supplies its packages where those of all shapes that are printed come with it or are
those of a shape whose packages are imported. -/
theorem suppliesPackages_iff (settings : Settings) (model : Model) :
    (∀ shape ∈ model.printedShapes, ∀ package ∈ shape.packages,
      model.Attaches settings package ∨ ∃ other ∈ model.importedShapes, package ∈ other.packages) ↔
      model.SuppliesPackages settings := by
  cases listed : model.enumeration with
  | some enumeration =>
    rw [printedShapes, listed]
    constructor
    · intro printed
      refine ⟨fun other same => ?_, fun unlisted => ?_⟩
      · cases listed.symm.trans same
        exact printed _ List.mem_cons_self
      · cases listed.symm.trans unlisted
    · intro supplies shape member
      rw [List.mem_singleton.1 member]
      exact supplies.enumeration enumeration listed
  | none =>
    rw [printedShapes, listed]
    simp only
    have noEnumeration (enumeration : Enumeration) (same : model.enumeration = some enumeration) :
        False := by
      cases listed.symm.trans same
    by_cases union : model.isUnion = true
    · rw [importedShapes, if_pos union]
      by_cases empty : model.memberShapes = []
      · rw [empty]
        simp only [List.isEmpty_nil, if_true, List.not_mem_nil, false_and, exists_false, or_false]
        exact ⟨fun printed => ⟨fun other same => (noEnumeration other same).elim,
          fun _ _ _ => printed⟩, fun supplies => supplies.emptyUnion listed union empty⟩
      · rw [if_neg (mt List.isEmpty_iff.1 empty)]
        refine ⟨fun _ => ⟨fun other same => (noEnumeration other same).elim,
          fun _ _ none => absurd none empty⟩, fun _ shape member package used => ?_⟩
        exact .inr ⟨shape, member, used⟩
    · have none := memberShapes_of_not_isUnion (Bool.eq_false_iff.2 union)
      rw [importedShapes, if_neg union, none]
      refine ⟨fun _ => ⟨fun other same => (noEnumeration other same).elim,
        fun _ is => absurd is union⟩, fun _ shape member package used => ?_⟩
      exact .inr ⟨shape, member, used⟩

end Model

namespace Generator

variable {generator : Generator}

/-! ## Fields -/

/-- The type of a field uses the packages of its shape. -/
theorem uses_of_processField (default : generator.types.IsDefault) {field : Field}
    (plain : field.schema.HasPlainMaps) {made : GoField}
    (done : (generator.processField field).result = .ok made) :
    made.type.imports = field.schema.packages ∧
      qualifiers made.dataType = field.schema.packages := by
  simp only [processField, Report.result_bind_eq_ok] at done
  obtain ⟨type, resolved, enumName, -, name, -, last⟩ := done
  cases last
  exact TypeResolver.uses_of_resolve default plain resolved

/-! ## Unions -/

/-- A model that is no union, or the union that it is. -/
theorem union?_eq_ok {composition : Option Composition} {union : Option Union}
    (done : (generator.union? composition).result = .ok union) :
    (union = none ∧ (composition.any fun composition => composition.kind != .allOf) = false) ∨
      ∃ (composed : Composition) (made : Union) (names : List String),
        composition = some composed ∧ union = some made ∧
        composed.kind ≠ .allOf ∧ made.kind = composed.kind ∧
        (composed.shapes.mapM generator.types.resolve).result = .ok made.types ∧
        (composed.shapes.mapM generator.types.declaration).result = .ok names ∧
        made.declarations = names.eraseDups := by
  cases composition with
  | none =>
    cases done
    exact .inl ⟨rfl, rfl⟩
  | some composed =>
    by_cases allOf : composed.kind = .allOf
    · rw [union?, if_pos allOf] at done
      cases done
      exact .inl ⟨rfl, by simp [allOf]⟩
    · rw [union?, if_neg allOf] at done
      have shapes : composed.shapes = composed.members.filter (!·.isNull) := if_neg allOf
      simp only [splitNull, TypeResolver.resolveAll, TypeResolver.memberDeclarations,
        Report.result_bind_eq_ok] at done
      obtain ⟨types, resolved, declarations, ⟨names, declared, each⟩, last⟩ := done
      cases each
      cases last
      refine .inr ⟨composed, _, names, rfl, rfl, allOf, rfl, ?_, ?_, rfl⟩
      · rw [shapes]
        exact resolved
      · rw [shapes]
        exact declared

/-- A union has its declarations in one of two places. -/
theorem declarationsOf_append {union : Union} (kind : union.kind ≠ .allOf) :
    declarationsOf .oneOf (some union) ++ declarationsOf .anyOf (some union) =
      union.declarations := by
  cases spelt : union.kind with
  | oneOf => simp [declarationsOf, spelt]
  | anyOf => simp [declarationsOf, spelt]
  | allOf => exact absurd spelt kind

/-- The declaration of a shape uses its packages. -/
theorem qualifiers_of_declaration (default : generator.types.IsDefault) {shape : Schema}
    (plain : shape.HasPlainMaps) {declaration : String}
    (done : (generator.types.declaration shape).result = .ok declaration) :
    qualifiers declaration = shape.packages := by
  rw [TypeResolver.declaration, Report.result_map] at done
  cases resolved : (generator.types.resolve shape).result with
  | error error => rw [resolved] at done; cases done
  | ok type =>
    rw [resolved] at done
    cases done
    exact (TypeResolver.uses_of_resolve default plain resolved).2

/-! ## Records -/

/-- Whether a record imports a package that types use: it came with the model, or a type asks for
it whose packages are imported. -/
theorem mem_importsOf (noReplacements : generator.settings.importMapping = Table.empty)
    {package : String} (known : package = "time" ∨ package = "io") (model : Model)
    (fields : List GoField) (union : Option Union) :
    .ofText package ∈ generator.importsOf model fields union ↔
      model.Attaches generator.settings.toSettings package ∨
        ∃ type ∈ union.elim (fields.map GoField.type) Union.types, package ∈ type.imports := by
  have notCalled : package ≠ fmtImport ∧ package ≠ validatorImport := by
    rcases known with rfl | rfl <;> decide
  have attached : .ofText package ∈ model.imports.map Label.ofText ↔ package ∈ model.imports := by
    rw [List.mem_map]
    refine ⟨?_, fun member => ⟨package, member, rfl⟩⟩
    rintro ⟨other, member, same⟩
    have text : other = package := congrArg Label.text same
    rwa [← text]
  simp only [importsOf]
  refine Iff.trans (has_modelImports noReplacements package) ?_
  simp only [attached, notCalled.1, notCalled.2, and_false, or_false]
  cases union <;> rfl

variable {model : Model} {parts : RecordParts}

/-- A record imports the packages that come with its model and those of the shapes whose packages
are imported. -/
theorem mem_imports_recordOf (default : generator.types.IsDefault)
    (noReplacements : generator.settings.importMapping = Table.empty)
    (plain : model.HasPlainMaps) (computes : generator.Computes model parts) (package : String)
    (known : package = "time" ∨ package = "io") :
    .ofText package ∈ (generator.recordOf model parts).imports ↔
      model.Attaches generator.settings.toSettings package ∨
        ∃ shape ∈ model.importedShapes, package ∈ shape.packages := by
  refine (mem_importsOf noReplacements known model parts.fields parts.union).trans
    (or_congr_right ?_)
  rcases union?_eq_ok computes.union with ⟨none, noUnion⟩ |
    ⟨composed, made, names, composition, some, notAll, -, resolved, -, -⟩
  · have shapes : model.importedShapes = model.fieldShapes := by
      rw [Model.importedShapes, Model.isUnion, noUnion]
      rfl
    rw [none, shapes]
    simp only [Option.elim_none, Model.fieldShapes, List.mem_map, exists_exists_and_eq_and]
    refine Report.exists_mem_mapM computes.fields fun field member value done => ?_
    rw [(uses_of_processField default (plain.of_field member) done).1]
  · have shapes : model.importedShapes = composed.shapes := by
      rw [Model.importedShapes, Model.isUnion, Model.memberShapes, composition]
      simp [notAll]
    rw [some, shapes, Option.elim_some]
    refine Report.exists_mem_mapM resolved fun shape member value done => ?_
    have there := Model.memberShapes_of_composition composition ▸ member
    rw [(TypeResolver.uses_of_resolve default (plain.of_memberShape there) done).1]

/-- The declarations of a union, wherever they are kept. -/
def unionDeclarations (union : Option Union) : List String :=
  declarationsOf .oneOf union ++ declarationsOf .anyOf union

/-- What the file of a record prints, by the parts of the record. -/
theorem printedTypes_recordOf (model : Model) (parts : RecordParts) :
    (generator.recordOf model parts).printedTypes =
      if model.enumeration.isSome then parts.enumDataType.toList
      else if (unionDeclarations parts.union).isEmpty then parts.fields.map GoField.dataType
      else unionDeclarations parts.union := by
  have members : (generator.recordOf model parts).members.map UnionMember.declaration =
      unionDeclarations parts.union := by
    simp only [recordOf, List.map_map]
    exact List.map_id _
  have empty : (unionDeclarations parts.union).isEmpty =
      ((declarationsOf .oneOf parts.union).isEmpty &&
        (declarationsOf .anyOf parts.union).isEmpty) := by
    rw [unionDeclarations]
    cases declarationsOf .oneOf parts.union <;> rfl
  rw [GoModel.printedTypes, members, empty]
  rfl

/-- The declarations of the fields use the packages of the shapes of the fields. -/
theorem used_by_fields (default : generator.types.IsDefault) (plain : model.HasPlainMaps)
    (computes : generator.Computes model parts) (package : String) :
    (∃ type ∈ parts.fields.map GoField.dataType, package ∈ qualifiers type) ↔
      ∃ shape ∈ model.fieldShapes, package ∈ shape.packages := by
  simp only [Model.fieldShapes, List.mem_map, exists_exists_and_eq_and]
  refine Report.exists_mem_mapM computes.fields fun field member value done => ?_
  rw [(uses_of_processField default (plain.of_field member) done).2]

/-- The declaration of the values of an enumeration uses the packages of their shape. -/
theorem used_by_enumeration (default : generator.types.IsDefault)
    (computes : generator.Computes model parts) {enumeration : Enumeration}
    (listed : model.enumeration = some enumeration) (package : String) :
    (∃ type ∈ parts.enumDataType.toList, package ∈ qualifiers type) ↔
      ∃ shape ∈ [Schema.primitive enumeration.backing], package ∈ shape.packages := by
  have made := computes.enumeration
  rw [listed] at made
  simp only [processEnumeration, Report.result_bind_eq_ok] at made
  obtain ⟨datatype, declared, constants, -, last⟩ := made
  have values : parts.enumDataType = some datatype :=
    (congrArg Prod.fst (Except.ok.inj last)).symm
  have plainBacking : (Schema.primitive enumeration.backing).HasPlainMaps := trivial
  have used := qualifiers_of_declaration default plainBacking declared
  simp [values, used]

/-- The declarations of a union use the packages of the shapes of its members, and there are none
just where there are no members. -/
theorem used_by_unionDeclarations (default : generator.types.IsDefault)
    (plain : model.HasPlainMaps) (computes : generator.Computes model parts) (package : String) :
    ((unionDeclarations parts.union).isEmpty = model.memberShapes.isEmpty) ∧
      ((∃ type ∈ unionDeclarations parts.union, package ∈ qualifiers type) ↔
        ∃ shape ∈ model.memberShapes, package ∈ shape.packages) := by
  rcases union?_eq_ok computes.union with ⟨none, noUnion⟩ |
    ⟨composed, made, names, composition, some, notAll, kind, -, declared, declarations⟩
  · have nothing : unionDeclarations parts.union = [] := by
      rw [none]
      rfl
    rw [nothing, Model.memberShapes_of_not_isUnion noUnion]
    exact ⟨rfl, by simp⟩
  · have shapes := Model.memberShapes_of_composition composition
    have kept : unionDeclarations parts.union = names.eraseDups := by
      rw [some, unionDeclarations, declarationsOf_append (kind ▸ notAll), declarations]
    have same : names.eraseDups = [] ↔ composed.shapes = [] := by
      rw [← Report.mapM_eq_nil declared, List.eq_nil_iff_forall_not_mem,
        List.eq_nil_iff_forall_not_mem]
      simp only [List.mem_eraseDups]
    rw [kept, shapes]
    refine ⟨Bool.eq_iff_iff.2 (by rw [List.isEmpty_iff, List.isEmpty_iff, same]), ?_⟩
    simp only [List.mem_eraseDups]
    refine Report.exists_mem_mapM declared fun shape member value done => ?_
    rw [qualifiers_of_declaration default (plain.of_memberShape (shapes ▸ member)) done]

/-- The types that the file of a record prints use the packages of the shapes that are printed. -/
theorem used_by_printedTypes (default : generator.types.IsDefault) (plain : model.HasPlainMaps)
    (computes : generator.Computes model parts) (package : String) :
    (∃ type ∈ (generator.recordOf model parts).printedTypes, package ∈ qualifiers type) ↔
      ∃ shape ∈ model.printedShapes, package ∈ shape.packages := by
  rw [printedTypes_recordOf, Model.printedShapes]
  cases listed : model.enumeration with
  | some enumeration => exact used_by_enumeration default computes listed package
  | none =>
    obtain ⟨empty, used⟩ := used_by_unionDeclarations default plain computes package
    simp only [Option.isSome_none, Bool.false_eq_true, if_false, empty]
    split
    · exact used_by_fields default plain computes package
    · exact used

/-! ## Generators -/

/-- Settings that override neither types nor names of models make a resolver that takes nothing from
them. -/
theorem isDefault_of_ofSettings {settings : GoSettings} {generator : Generator}
    (noTypes : settings.typeMapping = Table.empty)
    (noModels : settings.modelNameMapping = Table.empty)
    (built : ofSettings settings = .ok generator) :
    generator.settings = settings ∧ generator.types.IsDefault := by
  obtain ⟨naming, types, named, typed, rfl⟩ := exists_of_ofSettings built
  obtain ⟨reserved, -, rfl⟩ := Naming.exists_of_ofSettings named
  rw [noTypes] at typed
  cases typed
  exact ⟨rfl, rfl, noModels⟩

/-- Under settings that override neither types nor names of models nor import paths, of a model
whose maps are plain and that can be processed, the file prints the types that it is said to print,
and every package that one of them names is imported exactly where the model supplies its packages:
where those of the values of an enumeration, and those of the fields of a union without members,
come with the model or with a shape whose packages are imported. -/
theorem imports_printed_iff {settings : GoSettings}
    (noTypes : settings.typeMapping = Table.empty)
    (noReplacements : settings.importMapping = Table.empty)
    (noModels : settings.modelNameMapping = Table.empty) {generator : Generator}
    (built : ofSettings settings = .ok generator) (registered : List Model) {model : Model}
    (plain : model.HasPlainMaps) {record : GoModel}
    (made : ((generator.register registered).processModel model).result = .ok record) :
    (∀ type ∈ record.printedTypes, ∀ (packageName : String) (classPrefix : Bool),
      type.toList <:+: (ModelFile.render packageName classPrefix record).toList) ∧
    ((∀ type ∈ record.printedTypes, ∀ package ∈ qualifiers type,
        .ofText package ∈ record.imports) ↔
      model.SuppliesPackages settings.toSettings) := by
  refine ⟨fun type printed packageName classPrefix =>
    ModelFile.infix_render printed packageName classPrefix, ?_⟩
  obtain ⟨given, fresh⟩ := isDefault_of_ofSettings noTypes noModels built
  have kept : (generator.register registered).settings = settings := given
  have default : (generator.register registered).types.IsDefault := ⟨fresh.types, fresh.models⟩
  have replaced : (generator.register registered).settings.importMapping = Table.empty :=
    kept ▸ noReplacements
  obtain ⟨parts, computes, rfl⟩ := exists_parts made
  have used := used_by_printedTypes default plain computes
  have imported := mem_imports_recordOf default replaced plain computes
  rw [kept] at imported
  rw [← Model.suppliesPackages_iff]
  constructor
  · intro all shape member package needed
    obtain ⟨type, printed, named⟩ := (used package).2 ⟨shape, member, needed⟩
    exact (imported package (Schema.mem_packages needed)).1 (all type printed package named)
  · intro all type printed package named
    obtain ⟨shape, member, needed⟩ := (used package).1 ⟨type, printed, named⟩
    exact (imported package (Schema.mem_packages needed)).2 (all shape member package needed)

/-- A union of a list of times and null, with a file as a field that is not printed, imports what
its file names. -/
theorem nullable_times_imported :
    let event : Model := {
      name := "Event"
      fields := [{ baseName := "log", schema := .primitive "file" }]
      composition := some {
        kind := .anyOf, modelName := none
        members := [.array (.primitive "date-time") true, .primitive "null"] } }
    ∃ (generator : Generator) (record : GoModel), ofSettings {} = .ok generator ∧
      ((generator.register [event]).processModel event).result = .ok record ∧
      ∀ type ∈ record.printedTypes, ∀ package ∈ qualifiers type,
        .ofText package ∈ record.imports := by
  intro event
  have built : ofSettings {} = .ok (plain {}) :=
    ofSettings_eq_plain ⟨rfl, rfl, rfl, rfl, rfl⟩ rfl rfl
  have maps : event.HasPlainMaps := by
    intro shape member
    rcases List.mem_cons.1 member with rfl | last
    · trivial
    · rw [List.mem_singleton.1 last]
      trivial
  obtain ⟨record, made⟩ : (((plain {}).register [event]).processModel event).Succeeds := by
    refine (((plain {}).processModel_consults event).succeeds_iff noBlankOverrides_plain _).2 ?_
    exact fun name member => absurd member List.not_mem_nil
  have supplies : event.SuppliesPackages {} := by
    refine ⟨fun _ listed => ?_, fun _ _ none => ?_⟩
    · cases listed
    · cases none
  exact ⟨plain {}, record, built, made,
    (imports_printed_iff rfl rfl rfl built [event] maps made).2.2 supplies⟩

/-- An enumeration of dates names the package `time`, and so does a union of null alone with a time
as a field; neither imports it. -/
theorem packages_not_imported :
    let day : Model := { name := "Day", enumeration := some { backing := "date", values := [] } }
    let event : Model := {
      name := "Event"
      fields := [{ baseName := "at", schema := .primitive "date-time" }]
      composition := some { kind := .oneOf, modelName := none, members := [.primitive "null"] } }
    ∃ generator : Generator, ofSettings {} = .ok generator ∧
      ∀ model ∈ [day, event], ∃ record,
        (generator.processModel model).result = .ok record ∧
        record.printedTypes = ["time.Time"] ∧ qualifiers "time.Time" = ["time"] ∧
        record.imports = [] := by
  intro day event
  refine ⟨plain {}, ofSettings_eq_plain ⟨rfl, rfl, rfl, rfl, rfl⟩ rfl rfl, ?_⟩
  have named : qualifiers "time.Time" = ["time"] := by decide
  intro model member
  rcases List.mem_cons.1 member with rfl | last
  · exact ⟨_, rfl, rfl, named, rfl⟩
  · rw [List.mem_singleton.1 last]
    exact ⟨_, rfl, rfl, named, rfl⟩

end Generator

end GoBindings
