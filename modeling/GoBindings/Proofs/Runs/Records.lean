import GoBindings.Generator
import GoBindings.Proofs.Reports

/-!
# Records of models

The record of a model is put together from parts that are computed one after another. Here a record
is taken apart again: every part that it was made from succeeded, and the record is the parts and
nothing else.
-/

namespace GoBindings.Generator

variable (generator : Generator)

/-- The parts that the record of a model is made from. -/
structure RecordParts where
  /-- The type name. -/
  name : String
  /-- The fields. -/
  fields : List GoField
  /-- The union that the model is, if it is one. -/
  union : Option Union
  /-- The declaration of the values of an enumeration. -/
  enumDataType : Option String
  /-- The constants of an enumeration. -/
  constants : List GoConstant
  /-- The file name. -/
  fileName : String

/-- The record that some parts make. -/
def recordOf (model : Model) (parts : RecordParts) : GoModel :=
  let oneOf := declarationsOf .oneOf parts.union
  let anyOf := declarationsOf .anyOf parts.union
  { name := parts.name, fileName := parts.fileName, fields := parts.fields
    enumDataType := parts.enumDataType, constants := parts.constants, oneOf, anyOf
    isEnum := model.enumeration.isSome
    members := (oneOf ++ anyOf).map fun declaration =>
      { fieldName := unionFieldName declaration, declaration }
    isNullable := parts.union.any Union.isNullable
    imports := generator.importsOf model parts.fields parts.union
    generateMarshalJson := generator.settings.generateMarshalJson
    generateUnmarshalJson := generator.settings.generateUnmarshalJson
    description := model.description }

/-- Parts that the rules give for a model. -/
structure Computes (model : Model) (parts : RecordParts) : Prop where
  /-- The type name is that of the model. -/
  name : (generator.naming.modelTypeName model.name).result = .ok parts.name
  /-- The fields are those of its properties. -/
  fields : (model.fields.mapM generator.processField).result = .ok parts.fields
  /-- The union is that of its composition. -/
  union : (generator.union? model.composition).result = .ok parts.union
  /-- The values and constants are those of its enumeration. -/
  enumeration : (generator.processEnumeration model.enumeration).result =
    .ok (parts.enumDataType, parts.constants)
  /-- The file name is that of the model. -/
  fileName : (generator.naming.modelFileName model.name).result = .ok parts.fileName

/-- A record that was made is made of parts that the rules give. -/
theorem exists_parts {generator : Generator} {model : Model} {record : GoModel}
    (made : (generator.processModel model).result = .ok record) :
    ∃ parts, generator.Computes model parts ∧ record = generator.recordOf model parts := by
  simp only [processModel, Report.result_bind_eq_ok] at made
  obtain ⟨name, named, fields, typed, union, joined, ⟨enumDataType, constants⟩, listed, fileName,
    filed, done⟩ := made
  exact ⟨⟨name, fields, union, enumDataType, constants, fileName⟩,
    ⟨named, typed, joined, listed, filed⟩, (Except.ok.inj done).symm⟩

end GoBindings.Generator
