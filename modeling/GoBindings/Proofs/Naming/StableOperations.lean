import GoBindings.Proofs.Naming.StableFields
import GoBindings.Proofs.Naming.StableTypes

/-!
# Models and operations named again

Both rules correct a name where one of two spellings cannot stand alone, the body as it is given or
its camel case, and put the start of models or of operations before it. The spellings that are
looked at the second time are not those of the first: a snake case has lost the capitals of the
body, a method name has lost its underscores. The names that a rule leaves alone are found to be the
ones that are spelt as its names are and can stand alone, and all names that it gives are such. The
main statement: what either rule gives is given again for itself.
-/

namespace GoBindings

open ReservedWords (plain)

/-- The models that are left alone are those in snake case whose type name stands alone. -/
theorem name_snakeModelName_eq_self_iff (name : String) :
    (snakeModelName plain name).name = name ↔
      Chars.IsSnake name.toList ∧ needsStart (camel name) = false := by
  constructor
  · intro same
    have snakeCase := isSnake_snakeModelName plain name
    have alone := needsStart_plainTypeName name
    rw [plainTypeName, same] at alone
    rw [same] at snakeCase
    exact ⟨snakeCase, alone⟩
  · rintro ⟨snakeCase, alone⟩
    have body : snakeBody name = name := by
      apply String.toList_inj.1
      rw [snakeBody, sanitize_of_isBody snakeCase.isBody, toList_snake,
        Chars.snake_of_isSnake snakeCase]
    rw [name_snakeModelName_plain, body, alone]
    rfl

/-- A free type name is not corrected as an operation. -/
theorem needsCorrection_of_isTypeName {name : String} (type : IsTypeName name)
    (free : IsFree name) : needsCorrection plain name name = false := by
  have unreserved : plain.isReserved name = false := (ReservedWords.isReserved_plain name).2 free
  have letter : startsWithDigit name = false := by
    obtain ⟨c, rest, chars, capital, -⟩ := type.eq_cons
    refine Chars.startsWithDigit_of_startsCapital type.isBody ?_
    rw [chars]
    exact capital
  rw [needsCorrection, unreserved, type.isCamelName.isEmpty_eq_false, letter]
  rfl

/-- The operations that are left alone are the free type names. -/
theorem name_operationName_eq_self_iff (name : String) :
    (operationName plain name).name = name ↔ IsTypeName name ∧ IsFree name := by
  constructor
  · intro same
    have type := isTypeName_operationName plain name
    have free := isFree_operationName name
    rw [same] at type free
    exact ⟨type, free⟩
  · rintro ⟨type, free⟩
    have camelCase : camel name = name := type.isCamelName.camel_eq
    rw [name_operationName, sanitize_of_isBody type.isBody, camelCase,
      needsCorrection_of_isTypeName type free]
    rfl

/-- Without settings every model has a name in snake case, which given as the name of a model is
left alone, and the method name of every operation, given as an operation, is left alone. -/
theorem models_operations_again (raw : String) :
    ∃ naming, Naming.ofSettings {} = .ok naming ∧
      (∃ name : String, (naming.snakeModelName raw).result = .ok (.ofText name) ∧
        (naming.snakeModelName name).result = .ok (.ofText name)) ∧
      (naming.operationName (naming.operationName raw).name).name =
        (naming.operationName raw).name := by
  have model : (snakeModelName plain (snakeModelName plain raw).name).name =
      (snakeModelName plain raw).name :=
    (name_snakeModelName_eq_self_iff _).2
      ⟨isSnake_snakeModelName plain raw, needsStart_plainTypeName raw⟩
  have operation : (operationName plain (operationName plain raw).name).name =
      (operationName plain raw).name :=
    (name_operationName_eq_self_iff _).2
      ⟨isTypeName_operationName plain raw, isFree_operationName raw⟩
  refine ⟨_, Naming.ofSettings_default, ⟨_, Naming.snakeModelName_plain raw, ?_⟩, operation⟩
  rw [Naming.snakeModelName_plain, model]

end GoBindings
