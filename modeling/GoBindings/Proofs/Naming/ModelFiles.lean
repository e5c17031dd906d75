import GoBindings.Naming.FileName
import GoBindings.Proofs.Naming.SnakeLaws
import GoBindings.Proofs.Naming.Spelling

/-!
# Files of models

Without settings the name of the type and the name of the file of a model are computed from the same
snake case name, by different rules: the type has the start `Model` only where it could not stand
alone, the file has the start `model_` always, and a name that already is a file name is taken as it
is. The type can be read back from the file unless one of two names is taken as it is and the other
is not. So models of different types have different files but for such a pair, and the main
statement says of which pairs the files are the same.
-/

namespace GoBindings

open ReservedWords (plain)

namespace Chars

/-! ## Bodies behind a start -/

/-- A start that is a body stays before a sanitized text. -/
theorem sanitize_append {start : List Char} (body : IsBody start) (s : List Char) :
    sanitize (start ++ s) = start ++ sanitize s := by
  have unopened : start.getLast? ≠ some '[' := fun opened =>
    absurd (body _ (List.mem_of_getLast? opened)) (by decide)
  rw [sanitize_append_of_apart (.inl unopened), sanitize_of_isBodyChar body]

/-! ## Texts in snake case -/

/-- A text of small letters, digits and underscores. -/
def IsSnake (s : List Char) : Prop := ∀ c ∈ s, (c.isLower || c.isDigit || c == '_') = true

/-- A character of such a text is its own small form and no capital. -/
theorem small_of_snakeChar {c : Char} (ascii : c.toNat < 0x80)
    (small : (c.isLower || c.isDigit || c == '_') = true) :
    c.toLower = c ∧ c.isUpper = false :=
  ascii_induction (P := fun c => (c.isLower || c.isDigit || c == '_') = true →
    c.toLower = c ∧ c.isUpper = false) (by decide) ascii small

/-- Snake case is the body of a name. -/
theorem IsSnake.isBody {s : List Char} (snake : IsSnake s) : IsBody s := by
  intro c member
  have small := snake c member
  simp only [Bool.or_eq_true] at small
  rcases small with (letter | digit) | separator
  · simp [isBodyChar, Char.isAlphanum, isAlpha_eq, letter]
  · simp [isBodyChar, Char.isAlphanum, digit]
  · exact Bool.or_eq_true_iff.2 (.inr separator)

/-- A text in snake case is its own snake case. -/
theorem snake_of_isSnake {s : List Char} (snake : IsSnake s) : Chars.snake s = s := by
  have body := snake.isBody
  have settled : IsSnakeCased s := fun c member =>
    ⟨(small_of_snakeChar (body.isAscii c member) (snake c member)).2,
      toUnderscore_of_isBodyChar (body c member)⟩
  exact settled.snake_eq body.isAscii

end Chars

/-! ## Types -/

/-- The type name of a model without settings. -/
def plainTypeName (raw : String) : String := camel (snakeModelName plain raw).name

/-- The start of a type name that cannot stand alone. -/
def typeStart : String := "Model"

/-- Whether a name in camel case cannot stand alone. -/
def needsStart (name : String) : Bool :=
  plain.isReserved name || (name.isEmpty || startsWithDigit name)

/-- A name in camel case as a type name. -/
def typeOfCamel (name : String) : String := if needsStart name then typeStart ++ name else name

/-- A name behind the start of models in camel case. -/
theorem camel_modelStart_append (body : String) :
    camel (modelStart ++ body) = typeStart ++ camel body := by
  have start : modelStart.toList = "Model".toList.map Char.toLower ++ ['_'] := by decide
  apply String.toList_inj.1
  rw [toList_camel, String.toList_append, String.toList_append, toList_camel, start,
    List.append_assoc, List.singleton_append, Chars.camel_append_underscore]
  rfl

/-- A name behind the start of models in snake case. -/
theorem snake_modelStart_append {body : String} (isBody : Chars.IsBody body.toList) :
    snake (modelStart ++ body) = modelStart ++ snake body := by
  have start : modelStart.toList = ['m', 'o', 'd', 'e', 'l'] ++ ['_'] := rfl
  apply String.toList_inj.1
  rw [toList_snake, String.toList_append, String.toList_append, toList_snake, start,
    List.append_assoc, List.singleton_append, Chars.snake_append_underscore
      (Chars.isBody_of_all rfl).isAscii isBody.isAscii, List.append_assoc, List.singleton_append]
  rfl

/-- A body is free where its case styles are: an underscore frees it, and else only its case
changes. -/
theorem isFree_of_camel_snake {body : String} (isBody : Chars.IsBody body.toList)
    (free : IsFree (camel (snake body))) : IsFree body := by
  by_cases member : '_' ∈ body.toList
  · exact isFree_of_underscore member
  · have lowered : Text.lower (camel (snake body)) = Text.lower body := by
      apply String.toList_inj.1
      rw [Text.toList_lower, toList_camel, toList_snake, Chars.lower_camel_snake isBody,
        Chars.bare_of_not_mem member, Text.toList_lower]
    rw [IsFree, ← lowered]
    exact free

/-- A name in camel case is reserved where it is or was. -/
theorem isReserved_or_camel_snake {body : String} (isBody : Chars.IsBody body.toList) :
    (plain.isReserved body || plain.isReserved (camel (snake body))) =
      plain.isReserved (camel (snake body)) := by
  cases unreserved : plain.isReserved (camel (snake body)) with
  | true => exact Bool.or_true _
  | false =>
    rw [Bool.or_false, ReservedWords.isReserved_plain]
    exact isFree_of_camel_snake isBody ((ReservedWords.isReserved_plain _).1 unreserved)

/-- The snake case name of a model depends on whether its camel case can stand alone. -/
theorem name_snakeModelName_plain (raw : String) :
    (snakeModelName plain raw).name =
      if needsStart (camel (snakeBody raw)) then modelStart ++ snakeBody raw
      else snakeBody raw := by
  have body := isBody_sanitized raw
  rw [name_snakeModelName, needsCorrection, snakeBody, isReserved_or_camel_snake body,
    snake_modelStart_append body]
  rfl

/-- The type name of a model depends on the camel case of its snake case alone. -/
theorem plainTypeName_eq (raw : String) :
    plainTypeName raw = typeOfCamel (camel (snakeBody raw)) := by
  rw [plainTypeName, name_snakeModelName_plain, typeOfCamel]
  split
  · exact camel_modelStart_append _
  · rfl

/-- A name with the start of models stands alone. -/
theorem needsStart_append {rest : String} (body : Chars.IsBody rest.toList) :
    needsStart (typeStart ++ rest) = false := by
  have chars : (typeStart ++ rest).toList = ['M', 'o', 'd', 'e', 'l'] ++ rest.toList := by
    rw [String.toList_append]
    rfl
  have whole : Chars.IsBody (typeStart ++ rest).toList := by
    rw [chars]
    exact Chars.isBody_append.2 ⟨Chars.isBody_of_all rfl, body⟩
  have unreserved : plain.isReserved (typeStart ++ rest) = false :=
    (ReservedWords.isReserved_plain _).2
      (isFree_of_start chars whole fun word reserved => (reserved_starts word reserved).1)
  have nonempty : (typeStart ++ rest).isEmpty = false := by
    refine Bool.eq_false_iff.2 fun empty => ?_
    rw [String.isEmpty_iff.1 empty] at chars
    cases chars
  have letter : startsWithDigit (typeStart ++ rest) = false := by
    rw [startsWithDigit, chars]
    rfl
  rw [needsStart, unreserved, nonempty, letter]
  rfl

/-! ## Files -/

/-- The file name of a model without settings. -/
def plainFileName (raw : String) : String :=
  (Naming.computedModelFileName ⟨{}, plain⟩ raw).name

/-- The name of a file as the Go tool leaves it alone: with an underscore behind it if its last part
means something to the tool. -/
def safeFileName (file : String) : String := if isReservedFileName file then file ++ "_" else file

/-- The name under which a file is announced does not change what it is made to. -/
theorem name_freeFileName (shown file : String) :
    (freeFileName shown file).name = safeFileName file := by
  rw [freeFileName, safeFileName]
  split
  · rfl
  · rfl

/-- Camel case does not see whether a file name was made safe. -/
theorem camel_safeFileName (file : String) : camel (safeFileName file) = camel file := by
  rw [safeFileName]
  split
  · apply String.toList_inj.1
    rw [toList_camel, toList_camel, String.toList_append]
    exact Chars.camel_append_single _
  · rfl

/-- A text whose body already is the name of a model file. -/
structure IsModelFileName (raw : String) : Prop where
  /-- It begins as model files do. -/
  start : Text.startsWith modelFileStart (sanitize raw) = true
  /-- It is in snake case. -/
  small : isLowerSnake (sanitize raw) = true

instance (raw : String) : Decidable (IsModelFileName raw) :=
  decidable_of_iff (Text.startsWith modelFileStart (sanitize raw) = true ∧
    isLowerSnake (sanitize raw) = true) ⟨fun both => ⟨both.1, both.2⟩, fun name => ⟨name.1, name.2⟩⟩

/-- The file name that is taken for a name: its body if that is one already, and else its snake case
behind the start of model files. -/
def fileBody (raw : String) : String :=
  if IsModelFileName raw then sanitize raw else modelFileStart ++ snakeBody raw

/-- The body of a name behind the start of model files is that of the name behind it. -/
theorem sanitize_modelFileStart_append (raw : String) :
    sanitize (modelFileStart ++ raw) = modelStart ++ sanitize raw := by
  apply String.toList_inj.1
  rw [toList_sanitize, String.toList_append, Chars.sanitize_append (Chars.isBody_of_all rfl),
    String.toList_append, toList_sanitize]
  rfl

/-- A name behind the start of model files stands alone as a model, so its start is not doubled. -/
theorem name_snakeModelName_modelFileStart (raw : String) :
    (snakeModelName plain (modelFileStart ++ raw)).name = modelFileStart ++ snakeBody raw := by
  have body := isBody_sanitized raw
  have spelt : snakeBody (modelFileStart ++ raw) = modelStart ++ snakeBody raw := by
    rw [snakeBody, sanitize_modelFileStart_append, snake_modelStart_append body]
    rfl
  have alone : needsStart (typeStart ++ camel (snakeBody raw)) = false :=
    needsStart_append (isBody_camel (isBody_snake body))
  rw [name_snakeModelName_plain, spelt, camel_modelStart_append, alone]
  rfl

/-- The file name that a name gives is the name made safe. -/
theorem name_toFileName (named : Named String) :
    named.toFileName.name = safeFileName named.name := name_freeFileName named.name named.name

/-- The file of a model is the file name that is taken for it, made safe. -/
theorem plainFileName_eq (raw : String) : plainFileName raw = safeFileName (fileBody raw) := by
  have noAffixes : applyAffixes {} raw = raw := applyAffixes_of_empty rfl rfl raw
  rw [plainFileName, fileBody, Naming.computedModelFileName, noAffixes]
  by_cases already : IsModelFileName raw
  · rw [if_pos already]
    simp only [already.start, already.small, Bool.and_self, if_true, name_toFileName, Named.kept]
  · have computed : (Text.startsWith modelFileStart (sanitize raw) &&
        isLowerSnake (sanitize raw)) = false := by
      refine Bool.eq_false_iff.2 fun both => already ?_
      obtain ⟨start, small⟩ := Bool.and_eq_true_iff.1 both
      exact ⟨start, small⟩
    rw [if_neg already]
    simp only [computed, Bool.false_eq_true, if_false, name_toFileName,
      name_snakeModelName_modelFileStart]

/-! ## Types and files -/

/-- The camel case of its file is the type of a model whose name is a file name. -/
theorem camel_fileBody_of_isModelFileName {raw : String} (already : IsModelFileName raw) :
    camel (fileBody raw) = plainTypeName raw := by
  have snake : Chars.IsSnake (sanitize raw).toList :=
    List.all_eq_true.1 (Bool.and_eq_true_iff.1 already.small).2
  have kept : snakeBody raw = sanitize raw := by
    apply String.toList_inj.1
    rw [snakeBody, toList_snake, Chars.snake_of_isSnake snake]
  obtain ⟨rest, chars⟩ := (Text.startsWith_iff _ _).1 already.start
  have begun : sanitize raw = modelStart ++ String.ofList rest := by
    apply String.toList_inj.1
    rw [← chars, String.toList_append, String.toList_ofList]
    rfl
  have restBody : Chars.IsBody (String.ofList rest).toList := by
    have body := snake.isBody
    rw [← chars] at body
    rw [String.toList_ofList]
    exact (Chars.isBody_append.1 body).2
  rw [fileBody, if_pos already, plainTypeName_eq, kept, begun, camel_modelStart_append,
    typeOfCamel, needsStart_append (isBody_camel restBody)]
  rfl

/-- Else it is the start of types and what the type is made from. -/
theorem camel_fileBody_of_not {raw : String} (computed : ¬ IsModelFileName raw) :
    camel (fileBody raw) = typeStart ++ camel (snakeBody raw) := by
  rw [fileBody, if_neg computed]
  exact camel_modelStart_append _

/-- Of two names the first is a file name, the second is not, and the file computed for the second
is the first. -/
structure Shadows (taken other : String) : Prop where
  /-- The first is a file name. -/
  already : IsModelFileName taken
  /-- The second is not. -/
  computed : ¬ IsModelFileName other
  /-- The first is the file name computed for the second. -/
  same : safeFileName (sanitize taken) = safeFileName (modelFileStart ++ snakeBody other)

instance (taken other : String) : Decidable (Shadows taken other) :=
  decidable_of_iff (IsModelFileName taken ∧ ¬ IsModelFileName other ∧
    safeFileName (sanitize taken) = safeFileName (modelFileStart ++ snakeBody other))
    ⟨fun all => ⟨all.1, all.2.1, all.2.2⟩, fun shadows =>
      ⟨shadows.already, shadows.computed, shadows.same⟩⟩

/-- A name that shadows another one has its file. -/
theorem Shadows.plainFileName_eq {taken other : String} (shadows : Shadows taken other) :
    plainFileName taken = plainFileName other := by
  rw [GoBindings.plainFileName_eq, GoBindings.plainFileName_eq, fileBody, fileBody,
    if_pos shadows.already, if_neg shadows.computed, shadows.same]

/-- Models of different types have the same file exactly where the name of one shadows that of the
other. -/
theorem plainFileName_eq_iff {first second : String}
    (apart : plainTypeName first ≠ plainTypeName second) :
    plainFileName first = plainFileName second ↔ Shadows first second ∨ Shadows second first := by
  constructor
  · intro same
    have safe := same
    rw [plainFileName_eq, plainFileName_eq] at safe
    have camels : camel (fileBody first) = camel (fileBody second) := by
      rw [← camel_safeFileName (fileBody first), safe, camel_safeFileName]
    by_cases one : IsModelFileName first
    · by_cases two : IsModelFileName second
      · rw [camel_fileBody_of_isModelFileName one, camel_fileBody_of_isModelFileName two] at camels
        exact absurd camels apart
      · rw [fileBody, fileBody, if_pos one, if_neg two] at safe
        exact .inl ⟨one, two, safe⟩
    · by_cases two : IsModelFileName second
      · rw [fileBody, fileBody, if_neg one, if_pos two] at safe
        exact .inr ⟨two, one, safe.symm⟩
      · rw [camel_fileBody_of_not one, camel_fileBody_of_not two] at camels
        refine absurd ?_ apart
        rw [plainTypeName_eq, plainTypeName_eq, (String.append_right_inj _).1 camels]
  · rintro (shadows | shadows)
    · exact shadows.plainFileName_eq
    · exact shadows.plainFileName_eq.symm

end GoBindings
