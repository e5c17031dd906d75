import GoBindings.Proofs.Naming.ExtraWords
import GoBindings.Proofs.Naming.ModelFiles

/-!
# Spelling of file names

Whatever the settings and the reserved words, the file of a model begins as the files of models do,
is written in small letters, digits and underscores, and has no last part that means something to
the Go tool. A name of that form is left alone, so these are just the names that the rule leaves
alone.
-/

namespace GoBindings

namespace Chars

/-- A body character has a small form that may stand in snake case. -/
theorem snakeChar_toLower {c : Char} (body : isBodyChar c = true) :
    (c.toLower.isLower || c.toLower.isDigit || c.toLower == '_') = true :=
  ascii_induction (P := fun c => isBodyChar c = true →
    (c.toLower.isLower || c.toLower.isDigit || c.toLower == '_') = true) (by decide)
    (ascii_of_isBodyChar body) body

/-- The snake case of a body is in snake case. -/
theorem IsBody.isSnake_snake {s : List Char} (body : IsBody s) : IsSnake (Chars.snake s) := by
  intro c member
  rw [snake_of_ascii body.isAscii] at member
  obtain ⟨d, there, rfl⟩ := List.mem_map.1 member
  exact snakeChar_toLower (body.brokenWords d there)

end Chars

/-- A file name that the rule for the files of models leaves alone. -/
structure IsSafeModelFile (file : String) : Prop where
  /-- It begins as model files do. -/
  start : Text.startsWith modelFileStart file = true
  /-- It is in snake case. -/
  small : isLowerSnake file = true
  /-- Its last part means nothing to the Go tool. -/
  safe : isReservedFileName file = false

instance (file : String) : Decidable (IsSafeModelFile file) :=
  decidable_of_iff (Text.startsWith modelFileStart file = true ∧ isLowerSnake file = true ∧
    isReservedFileName file = false)
    ⟨fun all => ⟨all.1, all.2.1, all.2.2⟩, fun file => ⟨file.start, file.small, file.safe⟩⟩

/-- A text in snake case is one that is not empty and has such characters only. -/
theorem isLowerSnake_iff (file : String) :
    isLowerSnake file = true ↔ file ≠ "" ∧ Chars.IsSnake file.toList := by
  rw [isLowerSnake, Bool.and_eq_true, List.all_eq_true]
  simp [Chars.IsSnake]

/-- A text in snake case stays in it behind a start in snake case. -/
theorem isLowerSnake_append {start rest : String} (small : isLowerSnake start = true)
    (snake : Chars.IsSnake rest.toList) : isLowerSnake (start ++ rest) = true := by
  obtain ⟨nonempty, startSnake⟩ := (isLowerSnake_iff start).1 small
  refine (isLowerSnake_iff _).2 ⟨fun empty => nonempty ?_, fun c member => ?_⟩
  · exact (String.append_eq_empty_iff.1 empty).1
  · rw [String.toList_append] at member
    exact (List.mem_append.1 member).elim (startSnake c) (snake c)

/-- A file name with an underscore at its end means nothing to the Go tool. -/
theorem isReservedFileName_append_underscore (file : String) :
    isReservedFileName (file ++ "_") = false := by
  have last : (Text.segments '_' (file ++ "_")).getLast? = some "" := by
    rw [Text.segments, String.toList_append]
    change (List.map String.ofList (Chars.segments '_' (file.toList ++ '_' :: []))).getLast? = _
    rw [Chars.segments_append, List.map_append]
    simp [Chars.segments]
  rw [isReservedFileName, last]
  decide

/-- A file name made safe means nothing to the Go tool. -/
theorem isReservedFileName_safeFileName (file : String) :
    isReservedFileName (safeFileName file) = false := by
  rw [safeFileName]
  split
  · exact isReservedFileName_append_underscore file
  · rename_i free
    exact Bool.eq_false_iff.2 free

/-- A file name made safe begins as the file name does. -/
theorem startsWith_safeFileName {start file : String} (begun : Text.startsWith start file = true) :
    Text.startsWith start (safeFileName file) = true := by
  rw [safeFileName]
  split
  · rw [Text.startsWith_iff, String.toList_append]
    exact ((Text.startsWith_iff _ _).1 begun).trans (List.prefix_append _ _)
  · exact begun

/-- A file name in snake case is in snake case when it is made safe. -/
theorem isLowerSnake_safeFileName {file : String} (small : isLowerSnake file = true) :
    isLowerSnake (safeFileName file) = true := by
  rw [safeFileName]
  split
  · exact isLowerSnake_append small (List.all_eq_true.1 rfl)
  · exact small

/-- The file name of a model, made safe, is one that the rule leaves alone. -/
theorem isSafeModelFile_safeFileName {file : String}
    (start : Text.startsWith modelFileStart file = true) (small : isLowerSnake file = true) :
    IsSafeModelFile (safeFileName file) :=
  ⟨startsWith_safeFileName start, isLowerSnake_safeFileName small,
    isReservedFileName_safeFileName file⟩

namespace Naming

/-- The name that is taken for a model behind the start of model files has that start, whatever is
reserved. -/
theorem exists_snakeModelName_modelFileStart (reserved : ReservedWords) (raw : String) :
    ∃ rest, Chars.IsSnake rest.toList ∧
      (GoBindings.snakeModelName reserved (modelFileStart ++ raw)).name =
        modelFileStart ++ rest := by
  have body := isBody_sanitized raw
  have spelt : snakeBody (modelFileStart ++ raw) = modelStart ++ snakeBody raw := by
    rw [snakeBody, sanitize_modelFileStart_append, snake_modelStart_append body]
    rfl
  rw [name_snakeModelName]
  split
  · have begun : snake (modelStart ++ sanitize (modelFileStart ++ raw)) =
        modelFileStart ++ snake (sanitize (modelFileStart ++ raw)) :=
      snake_modelStart_append (isBody_sanitized _)
    refine ⟨_, ?_, begun⟩
    rw [toList_snake]
    exact (isBody_sanitized _).isSnake_snake
  · refine ⟨snakeBody raw, ?_, spelt⟩
    rw [snakeBody, toList_snake]
    exact body.isSnake_snake

/-- Every model has a file name that the rule leaves alone. -/
theorem isSafeModelFile_computedModelFileName (naming : Naming) (name : String) :
    IsSafeModelFile (naming.computedModelFileName name).name := by
  rw [computedModelFileName]
  split
  · rename_i already
    obtain ⟨start, small⟩ := Bool.and_eq_true_iff.1 already
    rw [name_toFileName]
    exact isSafeModelFile_safeFileName start small
  · obtain ⟨rest, snake, named⟩ := exists_snakeModelName_modelFileStart naming.reserved
      (applyAffixes naming.settings name)
    rw [name_toFileName, named]
    refine isSafeModelFile_safeFileName ((Text.startsWith_iff _ _).2 ?_)
      (isLowerSnake_append rfl snake)
    rw [String.toList_append]
    exact List.prefix_append _ _

/-- The rule leaves just the names alone that have the form of its results. -/
theorem computedModelFileName_eq_self_iff (naming : Naming) (name : String) :
    (naming.computedModelFileName name).name = name ↔ IsSafeModelFile name := by
  constructor
  · intro same
    rw [← same]
    exact naming.isSafeModelFile_computedModelFileName name
  · intro file
    have kept : sanitize name = name :=
      sanitize_of_isBody ((isLowerSnake_iff name).1 file.small).2.isBody
    simp only [computedModelFileName, kept, file.start, file.small, Bool.and_self, if_true,
      name_toFileName]
    exact if_neg (Bool.eq_false_iff.1 file.safe)

end Naming

end GoBindings
