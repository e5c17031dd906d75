import GoBindings.Naming.EnumName
import GoBindings.Naming.FieldName
import GoBindings.Naming.FileName
import GoBindings.Proofs.Reports

/-!
# Rules without blank overrides

A naming rule fails on a blank override and on nothing else. Where no table of overrides has a blank
entry, every rule gives a name for every text.
-/

namespace GoBindings

/-- A table of which no entry is blank. -/
def Table.HasNoBlanks (table : Table Label Label) : Prop :=
  ∀ entry ∈ table.entries, entry.2.isBlank = false

/-- Settings of which no table of overrides has a blank entry. -/
structure Settings.NoBlankOverrides (settings : Settings) : Prop where
  /-- No field name is overridden by nothing. -/
  names : settings.nameMapping.HasNoBlanks
  /-- No parameter name is overridden by nothing. -/
  parameters : settings.parameterNameMapping.HasNoBlanks
  /-- No model name is overridden by nothing. -/
  models : settings.modelNameMapping.HasNoBlanks
  /-- No enumeration name is overridden by nothing. -/
  enumerations : settings.enumNameMapping.HasNoBlanks

instance (table : Table Label Label) : Decidable table.HasNoBlanks :=
  inferInstanceAs (Decidable (∀ entry ∈ table.entries, entry.2.isBlank = false))

/-- The value that is found under a key is that of an entry. -/
theorem mem_of_findEntry {κ α : Type} [BEq κ] {key : κ} {value : α} {entries : List (κ × α)}
    (found : findEntry key entries = some value) : ∃ k, (k, value) ∈ entries := by
  induction entries with
  | nil => cases found
  | cons entry rest ih =>
    obtain ⟨k, first⟩ := entry
    rw [findEntry] at found
    split at found
    · cases found
      exact ⟨k, List.mem_cons_self⟩
    · obtain ⟨other, member⟩ := ih found
      exact ⟨other, List.mem_cons_of_mem (k, first) member⟩

/-- A lookup in a table without blank entries does not fail. -/
theorem lookupOverride_of_hasNoBlanks {table : Table Label Label} (noBlanks : table.HasNoBlanks)
    (key : Label) : lookupOverride table key = .ok (table.find? key) := by
  rw [lookupOverride]
  cases found : table.find? key with
  | none => rfl
  | some value =>
    obtain ⟨other, member⟩ := mem_of_findEntry found
    have given : value.isBlank = false := noBlanks (other, value) member
    simp [given]

namespace Naming

/-- A rule behind a table without blank entries gives a name where the rule does. -/
theorem overriddenBy_succeeds {table : Table Label Label} (noBlanks : table.HasNoBlanks)
    (raw : String) {computed : Report InvalidMapping Label} (succeeds : computed.Succeeds) :
    (overriddenBy table raw computed).Succeeds := by
  rw [overriddenBy, lookupOverride_of_hasNoBlanks noBlanks]
  cases table.find? (.ofText raw) with
  | none => exact succeeds
  | some name => exact Report.succeeds_pure name

variable {naming : Naming} (noBlanks : naming.settings.NoBlankOverrides)

include noBlanks

/-- Every property has a field name. -/
theorem fieldName_succeeds (raw : String) : (naming.fieldName raw).Succeeds :=
  overriddenBy_succeeds noBlanks.names raw ⟨_, rfl⟩

/-- Every parameter has a name. -/
theorem parameterName_succeeds (raw : String) : (naming.parameterName raw).Succeeds :=
  overriddenBy_succeeds noBlanks.parameters raw
    ((fieldName_succeeds noBlanks raw).bind fun _ => ⟨_, rfl⟩)

/-- Every model has a type name. -/
theorem modelTypeName_succeeds (raw : String) : (naming.modelTypeName raw).Succeeds :=
  Report.Succeeds.map Label.text (overriddenBy_succeeds noBlanks.models raw ⟨_, rfl⟩)

/-- Every model has a file name. -/
theorem modelFileName_succeeds (raw : String) : (naming.modelFileName raw).Succeeds :=
  (overriddenBy_succeeds noBlanks.models raw (Report.succeeds_pure (.ofText raw))).bind
    fun _ => ⟨_, rfl⟩

/-- Every value has a constant. -/
theorem enumConstantName_succeeds (value datatype : String) :
    (naming.enumConstantName value datatype).Succeeds :=
  overriddenBy_succeeds noBlanks.enumerations value ⟨_, rfl⟩

/-- Every inline enumeration has a type name. -/
theorem enumTypeName_succeeds (raw : String) : (naming.enumTypeName raw).Succeeds :=
  overriddenBy_succeeds noBlanks.enumerations raw
    ((modelTypeName_succeeds noBlanks raw).bind fun _ => Report.succeeds_pure _)

end Naming

end GoBindings
