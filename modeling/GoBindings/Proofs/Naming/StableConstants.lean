import GoBindings.Proofs.Naming.Constants

/-!
# Constants of text values named again

A constant that is given as a value is in capitals, so it is taken as it is, whatever way it came
about the first time. Trimming takes the underscore off that was put before a digit or behind a
reserved word, and what is left is the body of the constant, to which the same correction is made
again. The main statement: a constant of letters, digits and underscores is its own constant.
-/

namespace GoBindings

open ReservedWords (plain)

/-- The only symbol with a word that is in capitals, digits and underscores is the underscore. -/
theorem eq_underscore_of_symbolWords :
    ∀ entry ∈ symbolWords, Chars.IsCapitals entry.1.toList → entry.1 = "_" := by
  decide

namespace IsConstantBody

variable {body : String} (isBody : IsConstantBody body)

include isBody

/-- A constant is in capitals. -/
theorem isCapitals_constantOfBody : Chars.IsCapitals (constantOfBody body).toList := by
  have capitals := isBody.capitals
  rw [constantOfBody]
  split
  · rw [String.toList_append]
    exact List.forall_mem_append.2 ⟨capitals, List.all_eq_true.1 rfl⟩
  · split
    · rw [String.toList_append]
      exact List.forall_mem_append.2 ⟨List.all_eq_true.1 rfl, capitals⟩
    · exact capitals

/-- Trimmed of underscores a constant is the body that it is made of. -/
theorem trim_constantOfBody : Text.trim (· == '_') (constantOfBody body) = body := by
  have trimmed := isBody.trimmed
  have nonempty : body.toList ≠ [] := mt String.toList_eq_nil_iff.1 isBody.nonempty
  apply String.toList_inj.1
  rw [Text.toList_trim, constantOfBody]
  split
  · rw [String.toList_append]
    exact trimmed.trim_append nonempty rfl
  · split
    · rw [String.toList_append]
      exact trimmed.trim_cons rfl
    · exact trimmed.trim_eq

/-- A constant is not empty. -/
theorem constantOfBody_ne_empty : constantOfBody body ≠ "" := by
  intro empty
  have trimmed := isBody.trim_constantOfBody
  rw [empty] at trimmed
  exact isBody.nonempty trimmed.symm

/-- The body of a constant is the one that it is made of. -/
theorem enumBody_constantOfBody : enumBody (constantOfBody body) = body := by
  have already : isUpperSnakeLine (constantOfBody body) = true :=
    (isUpperSnakeLine_iff _).2 (.inl ⟨isBody.constantOfBody_ne_empty,
      isBody.isCapitals_constantOfBody⟩)
  rw [enumBody, if_pos already, isBody.trim_constantOfBody]

/-- A constant is no symbol with a word, since it is not the underscore alone. -/
theorem symbolName_constantOfBody : symbolName (constantOfBody body) = none := by
  refine symbolName_eq_none fun entry listed same => ?_
  have alone : entry.1 = "_" :=
    eq_underscore_of_symbolWords entry listed (same ▸ isBody.isCapitals_constantOfBody)
  have trimmed := isBody.trim_constantOfBody
  rw [← same, alone] at trimmed
  exact isBody.nonempty trimmed.symm

/-- A constant that is given as a value is its own constant. -/
theorem name_enumConstantName_constantOfBody {datatype : String}
    (text : GoWords.isUnquotedType datatype = false) :
    (enumConstantName plain (constantOfBody body) datatype).name =
      .ofText (constantOfBody body) := by
  have nonempty : (constantOfBody body).isEmpty = false :=
    String.isEmpty_eq_false_iff.2 isBody.constantOfBody_ne_empty
  have same := isBody.enumBody_constantOfBody
  have again : IsConstantBody (enumBody (constantOfBody body)) := by rwa [same]
  simp only [enumConstantName, nonempty, text, isBody.symbolName_constantOfBody,
    Bool.false_eq_true, if_false]
  rw [again.name_textEnumName, same]

end IsConstantBody

/-- Without settings every value of a text type has a constant, and a constant of letters, digits
and underscores that is given as a value of the type has itself as constant. -/
theorem enumConstantName_again (value : String) {datatype : String}
    (text : GoWords.isUnquotedType datatype = false) :
    ∃ naming, Naming.ofSettings {} = .ok naming ∧ ∃ name : String,
      (naming.enumConstantName value datatype).result = .ok (.ofText name) ∧
      (Chars.IsBody name.toList →
        (naming.enumConstantName name datatype).result = .ok (.ofText name)) := by
  refine ⟨_, Naming.ofSettings_default, ?_⟩
  by_cases line : IsCapitalsLine value
  · obtain ⟨name, named, member⟩ := line.lineEnd_mem_constant text
    exact ⟨name, Naming.enumConstantName_plain named,
      fun body => absurd (body _ member) (by decide)⟩
  · obtain ⟨body, isBody, named⟩ := exists_constantOfBody text line
    exact ⟨constantOfBody body, Naming.enumConstantName_plain named, fun _ =>
      Naming.enumConstantName_plain (isBody.name_enumConstantName_constantOfBody text)⟩

/-- The value `type`, a word of Go, has the constant `TYPE_`, which is its own constant. -/
theorem reserved_constant_again :
    GoWords.isUnquotedType "string" = false ∧
    ∃ naming, Naming.ofSettings {} = .ok naming ∧
      (naming.enumConstantName "type" "string").result = .ok (.ofText "TYPE_") ∧
      Chars.IsBody "TYPE_".toList ∧
      (naming.enumConstantName "TYPE_" "string").result = .ok (.ofText "TYPE_") := by
  have text : GoWords.isUnquotedType "string" = false := by decide
  have body : Chars.IsBody "TYPE_".toList := Chars.isBody_of_all rfl
  have named : (enumConstantName plain "type" "string").name = .ofText "TYPE_" := rfl
  obtain ⟨naming, built, name, given, again⟩ := enumConstantName_again "type" text
  obtain rfl : naming = ⟨{}, plain⟩ := Except.ok.inj (built.symm.trans Naming.ofSettings_default)
  have same : name = "TYPE_" := by
    rw [Naming.enumConstantName_plain named] at given
    exact congrArg Label.text (Except.ok.inj given).symm
  rw [same] at given again
  exact ⟨text, _, built, given, body, again body⟩

end GoBindings
