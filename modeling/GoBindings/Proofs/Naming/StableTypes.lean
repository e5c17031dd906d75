import GoBindings.Proofs.Naming.Words

/-!
# Type names named again

The name of a type is the camel case of a name in snake case, so to give it as the name of a model
puts it into snake case again and loses every capital that does not begin a word there. It is left
alone exactly where no capital is lost; the main statement says in which names in snake case that
happens, and that whatever is lost is lost at the first time.
-/

namespace GoBindings

open ReservedWords (plain)

namespace Chars

/-- A part of one letter keeps its capital and that of the next part: the next part does not begin
with a letter, or it begins with three. -/
def KeepsCapital (part next : List Char) : Prop :=
  isLetter part = true → startsWithLetters 1 next = true → startsWithLetters 3 next = true

instance (part next : List Char) : Decidable (KeepsCapital part next) :=
  inferInstanceAs (Decidable (_ → _))

/-- A word that stays apart keeps its capital. -/
theorem StaysApart.keepsCapital {part next : List Char} (apart : StaysApart part next) :
    KeepsCapital part next := fun letter _ => apart.2 letter

/-- A text is capitalised as its beginning is. -/
theorem capitalize_append {s : List Char} (nonempty : s ≠ []) (more : List Char) :
    capitalize (s ++ more) = capitalize s ++ more := by
  cases s with
  | nil => exact absurd rfl nonempty
  | cons c rest => rw [List.cons_append, capitalize, capitalize, List.append_assoc]

namespace IsSnakePart

variable {part : List Char}

/-- A part that does not begin with a letter is its own camel case. -/
theorem capitalize_eq_self (here : IsSnakePart part) (digit : startsWithLetters 1 part = false) :
    capitalize part = part := by
  obtain ⟨c, rest, rfl, first, -⟩ := here.eq_cons
  rw [startsWithLetters_one_cons] at digit
  rw [capitalize_cons first, (toUpper_of_isSmall first).2.2 digit]

/-- A part that begins with a letter does not begin like its camel case. -/
theorem append_ne_capitalize_append (here : IsSnakePart part)
    (letter : startsWithLetters 1 part = true) (more tail : List Char) :
    part ++ more ≠ capitalize part ++ tail := by
  intro same
  have capital := startsCapital_capitalize_append here tail
  rw [← same, letter] at capital
  obtain ⟨c, rest, rfl, first, -⟩ := here.eq_cons
  exact Bool.noConfusion ((toLower_of_isSmall first).1.symm.trans capital)

end IsSnakePart

/-- To regroup parts changes their camel case unless every capital is kept: a joined part that
begins with a digit has no capital to lose, and one that begins with a letter loses it. -/
theorem capitalized_regroup_iff {ps : List (List Char)} (isParts : ∀ part ∈ ps, IsSnakePart part) :
    (regroup ps).flatMap capitalize = ps.flatMap capitalize ↔ ps.IsChain KeepsCapital := by
  induction ps using regroup.induct with
  | case1 => exact iff_of_true rfl .nil
  | case2 part => exact iff_of_true rfl (.singleton part)
  | case3 part next rest apart ih =>
    have later := ih (List.forall_mem_cons.1 isParts).2
    rw [regroup, if_pos apart, List.flatMap_cons, List.flatMap_cons, List.append_right_inj, later,
      List.isChain_cons_cons]
    exact (and_iff_right apart.keepsCapital).symm
  | case4 part next rest joined ih =>
    obtain ⟨here, further⟩ := List.forall_mem_cons.1 isParts
    obtain ⟨there, -⟩ := List.forall_mem_cons.1 further
    obtain ⟨more, words, first⟩ := exists_regroup_cons next rest
    have later := ih further
    rw [first] at later
    rw [regroup, if_neg joined, first, glue, List.isChain_cons_cons, ← later]
    simp only [List.flatMap_cons, capitalize_append here.nonempty, capitalize_append there.nonempty,
      List.append_assoc, List.append_right_inj]
    cases letter : startsWithLetters 1 next with
    | false =>
      have keeps : KeepsCapital part next := fun _ one => Bool.noConfusion (letter.symm.trans one)
      rw [there.capitalize_eq_self letter, List.append_right_inj]
      exact (and_iff_right keeps).symm
    | true =>
      have loses : ¬ KeepsCapital part next :=
        fun keeps => joined ⟨letter, fun alone => keeps alone letter⟩
      exact iff_of_false (there.append_ne_capitalize_append letter _ _) fun both => loses both.1

/-- Camel case is restored from its snake case where every capital is kept. -/
theorem camel_snake_camel_iff {s : List Char} (snakeCase : IsSnake s) :
    camel (snake (camel s)) = camel s ↔ (parts s).IsChain KeepsCapital := by
  rw [camel_eq_parts (snake (camel s)), parts_snake_camel snakeCase, camel_eq_parts s]
  exact capitalized_regroup_iff fun _ member => snakeCase.isSnakePart_of_mem member

/-- Snake case that was made from camel case is restored from its camel case. -/
theorem snake_camel_snake_camel {s : List Char} (snakeCase : IsSnake s) :
    snake (camel (snake (camel s))) = snake (camel s) := by
  have readBack : IsSnake (snake (camel s)) := snakeCase.isBody.camel.isSnake_snake
  have words : parts (snake (camel s)) = regroup (parts s) := parts_snake_camel snakeCase
  by_cases empty : camel s = []
  · rw [empty]
    rfl
  by_cases emptyAgain : camel (snake (camel s)) = []
  · have none := parts_eq_nil_of_camel readBack emptyAgain
    rw [words] at none
    cases cut : parts s with
    | nil => exact absurd (by rw [camel_eq_parts, cut]; rfl) empty
    | cons part rest =>
      obtain ⟨more, later, first⟩ := exists_regroup_cons part rest
      rw [cut, first] at none
      cases none
  · have settled : regroup (regroup (parts s)) = regroup (parts s) :=
      regroup_of_isChain
        (isChain_regroup fun part member => (snakeCase.isSnakePart_of_mem member).nonempty)
    rw [← joinSegments_segments '_' (snake (camel (snake (camel s)))),
      segments_snake_camel readBack emptyAgain, words, settled,
      ← segments_snake_camel snakeCase empty, joinSegments_segments]

/-- Camel case that was restored once is restored again. -/
theorem camel_snake_camel_again {s : List Char} (snakeCase : IsSnake s) :
    camel (snake (camel (snake (camel s)))) = camel (snake (camel s)) :=
  congrArg camel (snake_camel_snake_camel snakeCase)

end Chars

/-- The name of a model is in snake case, whatever is reserved. -/
theorem isSnake_snakeModelName (reserved : ReservedWords) (raw : String) :
    Chars.IsSnake (snakeModelName reserved raw).name.toList := by
  have body := isBody_sanitized raw
  rw [name_snakeModelName]
  split
  · rw [toList_snake]
    exact (isBody_append (Chars.isBody_of_all rfl) body).isSnake_snake
  · rw [snakeBody, toList_snake]
    exact body.isSnake_snake

/-- Whether a name cannot stand alone depends on its letters alone, not on their case. -/
theorem needsStart_of_lower {first second : String} (firstBody : Chars.IsBody first.toList)
    (secondBody : Chars.IsBody second.toList) (same : Text.lower first = Text.lower second) :
    needsStart first = needsStart second := by
  have reserved : plain.isReserved first = plain.isReserved second :=
    ReservedWords.escapesByUnderscore_plain.isReserved_congr firstBody secondBody same
  rw [needsStart, needsStart, reserved, ← isEmpty_lower firstBody, ← isEmpty_lower secondBody,
    ← startsWithDigit_lower firstBody, ← startsWithDigit_lower secondBody, same]

/-- A type name stands alone. -/
theorem needsStart_plainTypeName (raw : String) : needsStart (plainTypeName raw) = false := by
  rw [plainTypeName_eq, typeOfCamel]
  split
  · exact needsStart_append (isBody_camel (isBody_snake (isBody_sanitized raw)))
  · rename_i alone
    exact Bool.eq_false_iff.2 alone

/-- A name that is a type name but for the case of letters and for underscores has the camel case of
its snake case as type name. -/
theorem plainTypeName_of_lower {name : String} (body : Chars.IsBody name.toList) (raw : String)
    (same : Chars.lower (Chars.bare name.toList) = Chars.lower (plainTypeName raw).toList) :
    plainTypeName name = camel (snake name) := by
  have type : IsTypeName (plainTypeName raw) := isTypeName_snakeModelName plain raw
  have lowered : Text.lower (camel (snake name)) = Text.lower (plainTypeName raw) := by
    apply String.toList_inj.1
    rw [Text.toList_lower, toList_camel, toList_snake, Chars.lower_camel_snake body, same,
      Text.toList_lower]
  have alone := needsStart_of_lower (isBody_camel (isBody_snake body)) type.isBody lowered
  rw [needsStart_plainTypeName] at alone
  rw [plainTypeName_eq, snakeBody, sanitize_of_isBody body, typeOfCamel, alone]
  rfl

/-- A type name that is given as the name of a model gives the camel case of its snake case. -/
theorem plainTypeName_plainTypeName (raw : String) :
    plainTypeName (plainTypeName raw) = camel (snake (plainTypeName raw)) := by
  have type : IsTypeName (plainTypeName raw) := isTypeName_snakeModelName plain raw
  refine plainTypeName_of_lower type.isBody raw ?_
  rw [Chars.bare_of_not_mem type.underscore_not_mem]

/-- The name in snake case of a model without settings. -/
theorem Naming.snakeModelName_plain (raw : String) :
    (Naming.snakeModelName ⟨{}, plain⟩ raw).result =
      .ok (.ofText (GoBindings.snakeModelName plain raw).name) := by
  have unmapped : (⟨{}, plain⟩ : Naming).settings.modelNameMapping = Table.empty := rfl
  rw [Naming.snakeModelName_result_of_unmapped unmapped, Naming.computedModelName,
    applyAffixes_of_empty rfl rfl]

/-- The type name of a model without settings. -/
theorem Naming.modelName_plain (raw : String) :
    (Naming.modelName ⟨{}, plain⟩ raw).result = .ok (.ofText (plainTypeName raw)) := by
  rw [Naming.modelName_result Settings.overridesNothing_default, Naming.computedModelName,
    applyAffixes_of_empty rfl rfl]
  rfl

/-- Without settings every model has a name in snake case and a type name, and the type name given
as the name of a model gives a type name again. That is the same exactly where in the name in snake
case every part of one letter is followed by a part that begins with three letters or with none, or
by nothing. The name that comes out the second time comes out every further time. -/
theorem modelName_again_iff (raw : String) :
    ∃ naming, Naming.ofSettings {} = .ok naming ∧ ∃ snakeName name again : String,
      (naming.snakeModelName raw).result = .ok (.ofText snakeName) ∧
      (naming.modelName raw).result = .ok (.ofText name) ∧
      (naming.modelName name).result = .ok (.ofText again) ∧
      (again = name ↔ (Chars.parts snakeName.toList).IsChain Chars.KeepsCapital) ∧
      (naming.modelName again).result = .ok (.ofText again) := by
  refine ⟨_, Naming.ofSettings_default, (snakeModelName plain raw).name, plainTypeName raw,
    plainTypeName (plainTypeName raw), ?_, Naming.modelName_plain raw, Naming.modelName_plain _,
    ?_, ?_⟩
  · have unmapped : (⟨{}, plain⟩ : Naming).settings.modelNameMapping = Table.empty := rfl
    rw [Naming.snakeModelName_result_of_unmapped unmapped, Naming.computedModelName,
      applyAffixes_of_empty rfl rfl]
  · rw [plainTypeName_plainTypeName, ← String.toList_inj, plainTypeName, toList_camel, toList_snake,
      toList_camel]
    exact Chars.camel_snake_camel_iff (isSnake_snakeModelName plain raw)
  · have settled : plainTypeName (plainTypeName (plainTypeName raw)) =
        plainTypeName (plainTypeName raw) := by
      rw [plainTypeName_plainTypeName (plainTypeName raw), plainTypeName_plainTypeName raw]
      apply String.toList_inj.1
      simp only [plainTypeName, toList_camel, toList_snake]
      exact Chars.camel_snake_camel_again (isSnake_snakeModelName plain raw)
    rw [Naming.modelName_plain, settled]

/-- The model `x_id` has the type `XId`, which given as the name of a model has the type `Xid`. -/
theorem capital_lost_again :
    ∃ naming, Naming.ofSettings {} = .ok naming ∧
      (naming.modelName "x_id").result = .ok (.ofText "XId") ∧
      (naming.modelName "XId").result = .ok (.ofText "Xid") := by
  have types : plainTypeName "x_id" = "XId" ∧ plainTypeName "XId" = "Xid" := by decide
  refine ⟨_, Naming.ofSettings_default, ?_, ?_⟩
  · rw [Naming.modelName_plain, types.1]
  · rw [Naming.modelName_plain, types.2]

end GoBindings
