import GoBindings.Proofs.Naming.FieldCollisions
import GoBindings.Proofs.Runs.Outcome
import GoBindings.Proofs.Runs.Records

/-!
# Fields of structs

The record of a model has one field for each property, in order, and each is named by itself. Two
properties of a model may so get one field, which no struct can have. The main statement says that
the fields of a record have different names exactly where no two of the properties share a field.
-/

namespace GoBindings.Generator

/-- The field of a property that was processed is named by the rule for fields. -/
theorem name_of_processField {generator : Generator} {field : Field} {made : GoField}
    (done : (generator.processField field).result = .ok made) :
    (generator.naming.fieldName field.baseName).result = .ok made.name := by
  simp only [processField, Report.result_bind_eq_ok] at done
  obtain ⟨type, typed, enumName, inline, name, named, last⟩ := done
  cases last
  exact named

/-- Settings that override no names and reserve no further words have the words of Go. -/
theorem naming_eq_plain {settings : GoSettings} (nothing : settings.OverridesNothing)
    (noWords : settings.extraReservedWords = []) {generator : Generator}
    (built : ofSettings settings = .ok generator) :
    generator.naming = ⟨settings.toSettings, ReservedWords.plain⟩ := by
  obtain ⟨naming, types, named, -, rfl⟩ := exists_of_ofSettings built
  have words := ReservedWords.ofSettings_eq_plain nothing noWords
  exact Except.ok.inj (named.symm.trans (Naming.ofSettings_of_reserved words))

/-- Under settings that override no names and reserve no further words, the record of a model has a
field for each property, whatever models are registered. -/
theorem fieldNames_of_processModel {settings : GoSettings} (nothing : settings.OverridesNothing)
    (noWords : settings.extraReservedWords = []) {generator : Generator}
    (built : ofSettings settings = .ok generator) (registered : List Model) {model : Model}
    {record : GoModel}
    (made : ((generator.register registered).processModel model).result = .ok record) :
    record.fields.map GoField.name =
      model.fields.map fun field => (fieldName ReservedWords.plain field.baseName).name := by
  have naming : (generator.register registered).naming =
      ⟨settings.toSettings, ReservedWords.plain⟩ := by
    rw [register_eq_withModels, naming_withModels]
    exact naming_eq_plain nothing noWords built
  obtain ⟨parts, computes, rfl⟩ := exists_parts made
  refine Report.map_eq_of_mapM computes.fields fun field value processed => ?_
  have named := name_of_processField processed
  rw [naming, Naming.fieldName_result nothing] at named
  exact (Except.ok.inj named).symm

/-- Under settings that override no names and reserve no further words, whatever models are
registered, the fields of a record have different names exactly where no two properties of the model
share a field. -/
theorem structFields_nodup_iff {settings : GoSettings} (nothing : settings.OverridesNothing)
    (noWords : settings.extraReservedWords = []) {generator : Generator}
    (built : ofSettings settings = .ok generator) (registered : List Model) {model : Model}
    {record : GoModel}
    (made : ((generator.register registered).processModel model).result = .ok record) :
    (record.fields.map GoField.name).Nodup ↔
      (model.fields.map Field.baseName).Pairwise fun first second =>
        ¬ ShareField first second := by
  rw [fieldNames_of_processModel nothing noWords built registered made, List.Nodup,
    List.pairwise_map, List.pairwise_map]
  simp only [Ne, name_fieldName_eq_iff]

/-- Under the default settings a model that refers to another one has different fields for
properties of which one is kept in capitals, one is reserved, one begins with a digit and one is
empty. -/
theorem kept_capitals_apart :
    let pet : Model := {
      name := "Pet"
      fields := [
        { baseName := "api_key", schema := .primitive "string" },
        { baseName := "API_KEY", schema := .primitive "string" },
        { baseName := "APIKEY", schema := .primitive "string" },
        { baseName := "type", schema := .primitive "string" },
        { baseName := "200", schema := .primitive "integer" },
        { baseName := "", schema := .reference "Owner" }] }
    ∃ record, (((plain {}).register [{ name := "Owner" }]).processModel pet).result = .ok record ∧
      (record.fields.map GoField.name).Nodup := by
  intro pet
  have nothing : ({} : GoSettings).OverridesNothing := ⟨rfl, rfl, rfl, rfl, rfl⟩
  have built : ofSettings {} = .ok (plain {}) := ofSettings_eq_plain nothing rfl rfl
  obtain ⟨record, made⟩ :
      (((plain {}).register [{ name := "Owner" }]).processModel pet).Succeeds := by
    refine (((plain {}).processModel_consults pet).succeeds_iff noBlankOverrides_plain _).2 ?_
    intro name member
    rw [List.mem_singleton.1 (show name ∈ ["Owner"] from member)]
    exact List.mem_cons_self
  refine ⟨record, made, (structFields_nodup_iff nothing rfl built _ made).2 ?_⟩
  decide

/-- Under the default settings the properties `pet_id` and `petId` have one field. -/
theorem case_variants_share_field :
    let pet : Model := {
      name := "Pet"
      fields := [
        { baseName := "pet_id", schema := .primitive "string" },
        { baseName := "petId", schema := .primitive "string" }] }
    ofSettings {} = .ok (plain {}) ∧ (pet.fields.map Field.baseName).Nodup ∧
      ∃ record, ((plain {}).processModel pet).result = .ok record ∧
        record.fields.map GoField.name = [.ofText "PetId", .ofText "PetId"] ∧
        ¬ (record.fields.map GoField.name).Nodup := by
  refine ⟨ofSettings_eq_plain ⟨rfl, rfl, rfl, rfl, rfl⟩ rfl rfl, by decide, _, rfl, rfl, ?_⟩
  change ¬ [Label.ofText "PetId", .ofText "PetId"].Nodup
  exact fun apart => (List.nodup_cons.1 apart).1 List.mem_cons_self

end GoBindings.Generator
