import GoBindings.Proofs.Naming.StableFields

/-!
# Exported fields

Other packages see a field of a struct only if its name begins with a capital. Camel case gives such
a name to every property once the corrections are made, and so do the escape and the placeholder.
A body written in capitals is the exception: it is kept as it is, with the underscores at its front.
The main statement says that a field is exported unless its property has such a body.
-/

namespace GoBindings

open ReservedWords (plain)

/-- A name that other packages see: a capital comes first. -/
def IsExported (name : String) : Prop := Chars.startsCapital name.toList = true

/-- A type name is exported. -/
theorem IsTypeName.isExported {name : String} (type : IsTypeName name) : IsExported name := by
  obtain ⟨c, rest, chars, capital, -⟩ := type.eq_cons
  rw [IsExported, chars]
  exact capital

/-- An exported name is exported with more behind it. -/
theorem IsExported.append {name : String} (exported : IsExported name) (more : String) :
    IsExported (name ++ more) := by
  rw [IsExported, String.toList_append]
  exact Chars.startsCapital_append exported more.toList

/-- The field that camel case gives is exported, whatever words are reserved. -/
theorem isExported_fieldOfCamel (reserved : ReservedWords) {body : String}
    (isBody : Chars.IsBody body.toList) : IsExported (reserved.fieldOfCamel (camel body)) := by
  by_cases empty : (camel body).isEmpty = true
  · rw [ReservedWords.fieldOfCamel, if_pos empty, IsExported]
    rfl
  · have camelName := isCamelName_camel isBody empty
    rw [ReservedWords.fieldOfCamel_eq camelName]
    split
    · exact (isTypeName_leadingName camelName).isExported.append "_"
    · exact (isTypeName_finishFieldName camelName).isExported

/-- Capitals are exported unless an underscore comes first. -/
theorem isExported_iff_of_isAllCapitals {body : String} (capitals : isAllCapitals body = true) :
    IsExported body ↔ ¬ Text.startsWith "_" body = true := by
  obtain ⟨all, some⟩ := Bool.and_eq_true_iff.1 capitals
  have front : ['_'].isPrefixOf body.toList = Text.startsWith "_" body := rfl
  rw [IsExported, ← front]
  cases chars : body.toList with
  | nil =>
    rw [chars] at some
    exact Bool.noConfusion some
  | cons c rest =>
    rw [chars, List.all_cons, Bool.and_eq_true] at all
    by_cases separator : c = '_'
    · simp [separator, Chars.startsCapital, List.isPrefixOf]
    · have capital : c.isUpper = true :=
        (Bool.or_eq_true_iff.1 all.1).resolve_right (by simpa using separator)
      simp [Chars.startsCapital, capital, List.isPrefixOf, Ne.symm separator]

/-- The field that a body gives is exported unless the body is in capitals behind an underscore: no
word of Go has an underscore, so such a body is never escaped. -/
theorem isExported_fieldOfBody_iff {body : String} (isBody : Chars.IsBody body.toList) :
    IsExported (plain.fieldOfBody body) ↔
      ¬ (isAllCapitals body = true ∧ Text.startsWith "_" body = true) := by
  by_cases capitals : isAllCapitals body = true
  · by_cases held : plain.isReserved body = true
    · have leads : IsExported (camel body) := by
        rw [IsExported, toList_camel]
        exact startsCapital_camel_of_isAllCapitals isBody capitals
      have unseparated : ¬ Text.startsWith "_" body = true := fun separated =>
        have free := isFree_of_underscore
          (underscore_mem_of_startsWith separated List.mem_cons_self)
        Bool.noConfusion (((ReservedWords.isReserved_plain body).2 free).symm.trans held)
      rw [ReservedWords.fieldOfBody, if_pos capitals, if_pos held]
      exact iff_of_true (leads.append "_") fun both => unseparated both.2
    · rw [ReservedWords.fieldOfBody, if_pos capitals, if_neg held,
        isExported_iff_of_isAllCapitals capitals, and_iff_right capitals]
  · rw [ReservedWords.fieldOfBody, if_neg capitals]
    exact iff_of_true (isExported_fieldOfCamel plain isBody) fun both => capitals both.1

/-- Without settings the field of a property is exported exactly where the body of its name is not
written in capitals and underscores with an underscore at the front. -/
theorem fieldName_exported_iff (raw : String) :
    ∃ naming, Naming.ofSettings {} = .ok naming ∧ ∃ name : String,
      (naming.fieldName raw).result = .ok (.ofText name) ∧
      (IsExported name ↔
        ¬ (isAllCapitals (sanitize raw) = true ∧ Text.startsWith "_" (sanitize raw) = true)) := by
  refine ⟨⟨{}, plain⟩, Naming.ofSettings_default, plain.fieldOfBody (sanitize raw), ?_,
    isExported_fieldOfBody_iff (isBody_sanitized raw)⟩
  rw [Naming.fieldName_result Settings.overridesNothing_default,
    ReservedWords.escapesByUnderscore_plain.name_fieldName]

/-- The property `_ID` has the field `_ID`, which is not exported. -/
theorem underscored_capitals_hidden :
    ∃ naming, Naming.ofSettings {} = .ok naming ∧
      (naming.fieldName "_ID").result = .ok (.ofText "_ID") ∧ ¬ IsExported "_ID" := by
  have field : plain.fieldOfBody (sanitize "_ID") = "_ID" := by decide
  refine ⟨⟨{}, plain⟩, Naming.ofSettings_default, ?_, ?_⟩
  · rw [Naming.fieldName_result Settings.overridesNothing_default,
      ReservedWords.escapesByUnderscore_plain.name_fieldName, field]
  · rw [IsExported]
    decide

end GoBindings
