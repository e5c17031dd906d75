import GoBindings.Naming.Resolve
import GoBindings.Proofs.Naming.CaseLaws

/-!
# Unreserved names

No rule for names gives a word that Go takes, in whatever casing. The rules compare a name with the
reserved words at different points and change it afterwards, so each has its own reason: the last
step puts in an underscore, which no reserved word has, or a start that no reserved word has, or it
leaves the name as it was compared. The main statement brings the categories together.
-/

namespace GoBindings

/-- Settings without overrides of names and without replacements of reserved words. -/
structure Settings.OverridesNothing (settings : Settings) : Prop where
  /-- No field name is overridden. -/
  names : settings.nameMapping = Table.empty
  /-- No parameter name is overridden. -/
  parameters : settings.parameterNameMapping = Table.empty
  /-- No model name is overridden. -/
  models : settings.modelNameMapping = Table.empty
  /-- No enumeration name is overridden. -/
  enumerations : settings.enumNameMapping = Table.empty
  /-- No reserved word is replaced. -/
  replacements : settings.reservedWordsMapping = Table.empty

/-- Settings that are not given override nothing. -/
theorem Settings.overridesNothing_default : Settings.OverridesNothing {} :=
  ⟨rfl, rfl, rfl, rfl, rfl⟩

/-- A name that is no reserved word of Go in any casing. -/
def IsFree (name : String) : Prop := Text.lower name ∉ GoWords.reserved

instance (name : String) : Decidable (IsFree name) :=
  inferInstanceAs (Decidable (Text.lower name ∉ GoWords.reserved))

/-! ## The words of Go -/

/-- The reserved words are bodies in small letters without underscores. -/
theorem reserved_spelling : ∀ word ∈ GoWords.reserved,
    word.toList.all (fun c => Chars.isBodyChar c && c.toLower == c && c != '_') = true := by
  decide +kernel

/-- A character of a reserved word is a small letter or a digit. -/
theorem spelling_of_reserved {word : String} (reserved : word ∈ GoWords.reserved) {c : Char}
    (member : c ∈ word.toList) : (Chars.isBodyChar c = true ∧ c.toLower = c) ∧ c ≠ '_' := by
  have spelling := List.all_eq_true.1 (reserved_spelling word reserved) c member
  simpa only [Bool.and_eq_true, beq_iff_eq, bne_iff_ne] using spelling

/-- No reserved word begins with the start of a corrected model or operation name, and only the word
`var` with that of a field name. -/
theorem reserved_starts : ∀ word ∈ GoWords.reserved,
    ¬ ['m', 'o', 'd', 'e', 'l'] <+: word.toList ∧ ¬ ['c', 'a', 'l', 'l'] <+: word.toList ∧
      (['v', 'a', 'r'] <+: word.toList → word.toList = ['v', 'a', 'r']) := by
  decide +kernel

/-- No reserved word is listed twice. -/
theorem reserved_eraseDups : GoWords.reserved.eraseDups = GoWords.reserved := by
  decide +kernel

/-- The words that the rules put in the place of a name are free. -/
theorem isFree_of_mem_placeholders : ∀ name ∈ "" :: emptyFieldName ::
    (additionalPropertiesField ++ "Field") :: emptyEnumName ::
    symbolWords.map fun entry => Text.upper entry.2, IsFree name := by
  decide +kernel

/-- The reserved words are bodies. -/
theorem isBody_of_reserved {word : String} (reserved : word ∈ GoWords.reserved) :
    Chars.IsBody word.toList :=
  fun _ member => (spelling_of_reserved reserved member).1.1

/-- The reserved words have no underscore. -/
theorem underscore_not_mem_of_reserved {word : String} (reserved : word ∈ GoWords.reserved) :
    '_' ∉ word.toList :=
  fun member => (spelling_of_reserved reserved member).2 rfl

/-- The reserved words are in small letters. -/
theorem lower_of_reserved {word : String} (reserved : word ∈ GoWords.reserved) :
    Text.lower word = word := by
  have same : ∀ c ∈ word.toList, c.toLower = c :=
    fun _ member => (spelling_of_reserved reserved member).1.2
  apply String.toList_inj.1
  rw [Text.toList_lower, Chars.lower_of_ascii _ (isBody_of_reserved reserved).isAscii]
  exact (List.map_congr_left same).trans (List.map_id _)

namespace ReservedWords

/-- The reserved words of Go alone, escaped by an underscore. -/
def plain : ReservedWords := ⟨GoWords.reserved, Table.empty, "_"⟩

/-- No reserved word clashes with the underscore as escape. -/
theorem clashing_reserved : clashing "_" GoWords.reserved = [] := by
  refine List.filter_eq_nil_iff.2 fun word reserved clash => ?_
  have bare := underscore_not_mem_of_reserved reserved
  rcases Bool.or_eq_true_iff.1 clash with begins | ends
  · exact bare (((Text.startsWith_iff "_" word).1 begins).subset List.mem_cons_self)
  · exact bare (((Text.endsWith_iff "_" word).1 ends).subset List.mem_cons_self)

/-- The reserved words of Go are accepted with the underscore as escape. -/
theorem build_reserved : build GoWords.reserved = .ok plain := by
  have lowered : GoWords.reserved.map Text.lower = GoWords.reserved :=
    (List.map_congr_left fun _ reserved => lower_of_reserved reserved).trans (List.map_id _)
  simp only [build, lowered, reserved_eraseDups, clashing_reserved]
  rfl

/-- Settings without replacements and further words reserve the words of Go alone. -/
theorem ofSettings_eq_plain {settings : Settings} (nothing : settings.OverridesNothing)
    (noWords : settings.extraReservedWords = []) : ofSettings settings = .ok plain := by
  rw [ofSettings, noWords, nothing.replacements, List.map_nil, List.append_nil]
  exact build_reserved

/-- Against the words of Go alone a name is unreserved where it is free. -/
theorem isReserved_plain (name : String) : plain.isReserved name = false ↔ IsFree name := by
  by_cases empty : name = ""
  · subst empty
    exact iff_of_true rfl (isFree_of_mem_placeholders "" List.mem_cons_self)
  · have replaced : plain.replacements.contains (.ofText name) = false := rfl
    have words : plain.words = GoWords.reserved := rfl
    simp [isReserved, replaced, words, empty, IsFree]

end ReservedWords

/-! ## Reasons for a name to be free -/

/-- A text begins with what another is put behind. -/
theorem prefix_toList_append (a b : String) : a.toList <+: (a ++ b).toList := by
  rw [String.toList_append]
  exact List.prefix_append _ _

/-- A text ends with what another is put before. -/
theorem suffix_toList_append (a b : String) : b.toList <:+ (a ++ b).toList := by
  rw [String.toList_append]
  exact List.suffix_append _ _

/-- A name with an underscore is free, since no reserved word has one. -/
theorem isFree_of_underscore {name : String} (member : '_' ∈ name.toList) : IsFree name := by
  intro reserved
  have lowered : '_' ∈ (Text.lower name).toList := by
    rw [Text.toList_lower]
    exact Chars.underscore_mem_lower member
  exact underscore_not_mem_of_reserved reserved lowered

/-- A name whose start has an underscore is free. -/
theorem isFree_append_of_left {start : String} (rest : String) (member : '_' ∈ start.toList) :
    IsFree (start ++ rest) := by
  apply isFree_of_underscore
  rw [String.toList_append]
  exact List.mem_append_left _ member

/-- A name whose ending has an underscore is free. -/
theorem isFree_append_of_right (name : String) {ending : String} (member : '_' ∈ ending.toList) :
    IsFree (name ++ ending) := by
  apply isFree_of_underscore
  rw [String.toList_append]
  exact List.mem_append_right _ member

/-- An escaped name is free. -/
theorem isFree_append_underscore (name : String) : IsFree (name ++ "_") :=
  isFree_append_of_right name (by simp)

/-- A body lowers to the small letters of its start and of what follows. -/
theorem lower_start_append {name : String} {start rest : List Char}
    (chars : name.toList = start ++ rest) (body : Chars.IsBody name.toList) :
    (Text.lower name).toList = start.map Char.toLower ++ rest.map Char.toLower := by
  rw [Text.toList_lower, Chars.lower_of_ascii _ body.isAscii, chars, List.map_append]

/-- A body with a start that no reserved word has is free. -/
theorem isFree_of_start {name : String} {start rest : List Char}
    (chars : name.toList = start ++ rest) (body : Chars.IsBody name.toList)
    (unused : ∀ word ∈ GoWords.reserved, ¬ start.map Char.toLower <+: word.toList) :
    IsFree name := by
  intro reserved
  refine unused (Text.lower name) reserved ?_
  rw [lower_start_append chars body]
  exact List.prefix_append _ _

/-- A name that begins with a digit is free behind `Var`, since no reserved word continues `var`. -/
theorem isFree_var_append {name : String} (body : Chars.IsBody name.toList)
    (digit : startsWithDigit name = true) : IsFree (digitFieldStart ++ name) := by
  have chars : (digitFieldStart ++ name).toList = ['V', 'a', 'r'] ++ name.toList := by
    rw [String.toList_append]
    rfl
  have whole : Chars.IsBody (digitFieldStart ++ name).toList := by
    rw [chars]
    exact Chars.isBody_append.2 ⟨Chars.isBody_of_all rfl, body⟩
  have lowered := lower_start_append chars whole
  intro reserved
  have alone := (reserved_starts _ reserved).2.2
  rw [lowered] at alone
  have nothing : name.toList.map Char.toLower = [] :=
    List.append_right_eq_self.1 (alone (List.prefix_append _ _))
  rw [startsWithDigit, List.map_eq_nil_iff.1 nothing] at digit
  exact absurd digit Bool.false_ne_true

/-- The characters of a sanitized text are a body. -/
theorem isBody_sanitized (raw : String) : Chars.IsBody (sanitize raw).toList := by
  rw [toList_sanitize]
  exact Chars.isBody_sanitize raw.toList

/-- A body in camel case is a body. -/
theorem isBody_camel {body : String} (isBody : Chars.IsBody body.toList) :
    Chars.IsBody (camel body).toList := by
  rw [toList_camel]
  exact isBody.camel

/-- A body in snake case is a body. -/
theorem isBody_snake {body : String} (isBody : Chars.IsBody body.toList) :
    Chars.IsBody (snake body).toList := by
  rw [toList_snake]
  exact isBody.snake

/-- A body behind a body is a body. -/
theorem isBody_append {start rest : String} (first : Chars.IsBody start.toList)
    (second : Chars.IsBody rest.toList) : Chars.IsBody (start ++ rest).toList := by
  rw [String.toList_append]
  exact Chars.isBody_append.2 ⟨first, second⟩

/-! ## Fields and parameters -/

open ReservedWords (plain)

/-- Without replacements a reserved name is avoided by its camel case with the suffix. -/
theorem ReservedWords.name_avoid {reserved : ReservedWords}
    (nothing : reserved.replacements = Table.empty) (use name : String) :
    (reserved.avoid use name).name =
      .ofText (if reserved.isReserved name then camel name ++ reserved.suffix else name) := by
  rw [ReservedWords.avoid]
  split
  · simp only [Named.corrected, ReservedWords.escape, nothing, Table.find?_empty, Option.getD_none]
  · rfl

/-- Avoiding the reserved words gives a free name, and a body for a body. -/
theorem avoid_plain (use : String) {name : String} (body : Chars.IsBody name.toList) :
    ∃ text, (plain.avoid use name).name = .ofText text ∧ IsFree text ∧
      Chars.IsBody text.toList := by
  refine ⟨_, ReservedWords.name_avoid rfl use name, ?_⟩
  split
  · exact ⟨isFree_append_underscore _, isBody_append (isBody_camel body) (Chars.isBody_of_all rfl)⟩
  · rename_i unreserved
    have free := (ReservedWords.isReserved_plain name).1 (Bool.eq_false_iff.2 unreserved)
    exact ⟨free, body⟩

/-- Finishing a field name keeps it free. -/
theorem isFree_finishFieldName {name : String} (body : Chars.IsBody name.toList)
    (free : IsFree name) : IsFree (finishFieldName name) := by
  have moved : IsFree (additionalPropertiesField ++ "Field") :=
    isFree_of_mem_placeholders _ (by simp)
  have started : IsFree (if startsWithDigit name then digitFieldStart ++ name else name) := by
    split
    · rename_i digit
      exact isFree_var_append body digit
    · exact free
  unfold finishFieldName
  generalize (if startsWithDigit name then digitFieldStart ++ name else name) = shown at started ⊢
  by_cases taken : shown = additionalPropertiesField
  · rw [if_pos taken, taken]
    exact moved
  · rw [if_neg taken]
    exact started

/-- Field names are free. -/
theorem isFree_fieldName (raw : String) :
    ∃ name, (fieldName plain raw).name = .ofText name ∧ IsFree name := by
  have body := isBody_sanitized raw
  simp only [fieldName]
  split
  · obtain ⟨text, given, free, -⟩ := avoid_plain "variable name" body
    exact ⟨text, given, free⟩
  · split
    · exact ⟨emptyFieldName, rfl, isFree_of_mem_placeholders _ (by simp)⟩
    · obtain ⟨text, given, free, textBody⟩ := avoid_plain "variable name" (isBody_camel body)
      refine ⟨finishFieldName text, ?_, isFree_finishFieldName textBody free⟩
      rw [Named.map, given, Label.mapText_ofText]

/-- Parameter names are free. -/
theorem isFree_parameterNameOfField (field : String) :
    IsFree (parameterNameOfField plain field).name := by
  simp only [parameterNameOfField]
  split
  · exact isFree_append_underscore _
  · rename_i unreserved
    exact (ReservedWords.isReserved_plain _).1 (Bool.eq_false_iff.2 unreserved)

/-! ## Models and operations -/

/-- The snake case name of a model is a body. -/
theorem isBody_snakeModelName (reserved : ReservedWords) (raw : String) :
    Chars.IsBody (snakeModelName reserved raw).name.toList := by
  have body := isBody_sanitized raw
  have fixed : Chars.IsBody (snake (modelStart ++ sanitize raw)).toList :=
    isBody_snake (isBody_append (Chars.isBody_of_all rfl) body)
  have kept : Chars.IsBody (snake (sanitize raw)).toList := isBody_snake body
  simp only [snakeModelName]
  split
  · exact fixed
  · split
    · exact fixed
    · exact kept

/-- A corrected model name is `Model` and the camel case of the rest. -/
theorem toList_correctedModelName {body : String} (isBody : Chars.IsBody body.toList) :
    (camel (snake (modelStart ++ body))).toList =
      ['M', 'o', 'd', 'e', 'l'] ++ Chars.camel (Chars.snake body.toList) := by
  have start : modelStart.toList = ['m', 'o', 'd', 'e', 'l'] ++ ['_'] := rfl
  rw [toList_camel, toList_snake, String.toList_append, start, List.append_assoc,
    List.singleton_append, Chars.snake_append_underscore
      (Chars.isBody_of_all rfl).isAscii isBody.isAscii, Chars.camel_append_underscore]
  rfl

/-- A model name with the start of corrected names is free. -/
theorem isFree_correctedModelName {body : String} (isBody : Chars.IsBody body.toList) :
    IsFree (camel (snake (modelStart ++ body))) := by
  have chars := toList_correctedModelName isBody
  refine isFree_of_start chars ?_ fun word reserved => (reserved_starts word reserved).1
  rw [chars]
  exact Chars.isBody_append.2 ⟨Chars.isBody_of_all rfl, isBody.snake.camel⟩

/-- Model names are free. -/
theorem isFree_snakeModelName (raw : String) :
    IsFree (camel (snakeModelName plain raw).name) := by
  have corrected := isFree_correctedModelName (isBody_sanitized raw)
  simp only [snakeModelName]
  split
  · exact corrected
  · rename_i unreserved
    split
    · exact corrected
    · rw [Bool.not_eq_true, Bool.or_eq_false_iff] at unreserved
      exact (ReservedWords.isReserved_plain _).1 unreserved.2

/-- A corrected operation name is `Call` and the camel case of the rest. -/
theorem toList_correctedOperationName (body : String) :
    (camel (operationStart ++ body)).toList =
      ['C', 'a', 'l', 'l'] ++ Chars.camel body.toList := by
  have start : operationStart.toList = ['c', 'a', 'l', 'l'] ++ ['_'] := rfl
  rw [toList_camel, String.toList_append, start, List.append_assoc, List.singleton_append,
    Chars.camel_append_underscore]
  rfl

/-- An operation name with the start of corrected names is free. -/
theorem isFree_correctedOperationName {body : String} (isBody : Chars.IsBody body.toList) :
    IsFree (camel (operationStart ++ body)) := by
  have chars := toList_correctedOperationName body
  refine isFree_of_start chars ?_ fun word reserved => (reserved_starts word reserved).2.1
  rw [chars]
  exact Chars.isBody_append.2 ⟨Chars.isBody_of_all rfl, isBody.camel⟩

/-- Operation names are free. -/
theorem isFree_operationName (raw : String) : IsFree (operationName plain raw).name := by
  have corrected := isFree_correctedOperationName (isBody_sanitized raw)
  simp only [operationName]
  split
  · exact corrected
  · rename_i unreserved
    split
    · exact corrected
    · rw [Bool.not_eq_true, Bool.or_eq_false_iff] at unreserved
      exact (ReservedWords.isReserved_plain _).1 unreserved.2

/-! ## Files -/

/-- A text has the underscores of its start. -/
theorem underscore_mem_of_startsWith {start name : String}
    (begun : Text.startsWith start name = true) (member : '_' ∈ start.toList) :
    '_' ∈ name.toList :=
  ((Text.startsWith_iff start name).1 begun).subset member

/-- A file name made safe keeps its underscores. -/
theorem underscore_mem_freeFileName (shown : String) {file : String} (member : '_' ∈ file.toList) :
    '_' ∈ (freeFileName shown file).name.toList := by
  rw [freeFileName]
  split
  · exact String.toList_append ▸ List.mem_append_left _ member
  · exact member

/-- A computed name keeps its underscores as a file name. -/
theorem underscore_mem_toFileName {named : Named String} (member : '_' ∈ named.name.toList) :
    '_' ∈ named.toFileName.name.toList :=
  underscore_mem_freeFileName named.name member

/-- The snake case name of a model keeps the underscores of the text. -/
theorem underscore_mem_snakeModelName (reserved : ReservedWords) {raw : String}
    (member : '_' ∈ raw.toList) : '_' ∈ (snakeModelName reserved raw).name.toList := by
  have body : '_' ∈ (sanitize raw).toList := by
    rw [toList_sanitize]
    exact Chars.underscore_mem_sanitize member
  have fixed : '_' ∈ (snake (modelStart ++ sanitize raw)).toList := by
    rw [toList_snake, String.toList_append]
    exact Chars.underscore_mem_snake (List.mem_append_right _ body)
  have kept : '_' ∈ (snake (sanitize raw)).toList := by
    rw [toList_snake]
    exact Chars.underscore_mem_snake body
  simp only [snakeModelName]
  split
  · exact fixed
  · split
    · exact fixed
    · exact kept

/-- Model file names are free. -/
theorem isFree_computedModelFileName (naming : Naming) (raw : String) :
    IsFree (naming.computedModelFileName raw).name := by
  have start : '_' ∈ modelFileStart.toList := by simp [modelFileStart]
  apply isFree_of_underscore
  simp only [Naming.computedModelFileName]
  split
  · rename_i already
    have kept : '_' ∈ (Named.kept (sanitize raw)).name.toList :=
      underscore_mem_of_startsWith (Bool.and_eq_true_iff.1 already).1 start
    exact underscore_mem_toFileName kept
  · apply underscore_mem_toFileName
    apply underscore_mem_snakeModelName
    rw [String.toList_append]
    exact List.mem_append_left _ start

/-- File names of interface groups are free. -/
theorem isFree_apiFileName (raw : String) : IsFree (apiFileName raw).name := by
  have start : '_' ∈ apiFileStart.toList := by simp [apiFileStart]
  apply isFree_of_underscore
  simp only [apiFileName]
  apply underscore_mem_freeFileName
  split
  · rename_i already
    exact underscore_mem_of_startsWith (Bool.and_eq_true_iff.1 already).1 start
  · rw [String.toList_append]
    exact List.mem_append_left _ start

/-- Test file names of interface groups are free. -/
theorem isFree_apiTestFileName (raw : String) : IsFree (apiTestFileName raw).name := by
  rw [apiTestFileName, Named.map]
  exact isFree_append_of_right _ (by simp [testFileEnding])

/-! ## Enumerations -/

/-- Constant names of numbers are free. -/
theorem isFree_numberEnumName (value : String) : IsFree (numberEnumName value) := by
  have start : '_' ∈ numberStart.toList := by simp [numberStart]
  rw [numberEnumName]
  split
  · rename_i already
    exact isFree_of_underscore (underscore_mem_of_startsWith already start)
  · exact isFree_append_of_left _ start

/-- A value that is looked up is listed with its key. -/
theorem mem_of_lookup {α β : Type} [BEq α] [LawfulBEq α] {key : α} {value : β}
    {pairs : List (α × β)} (found : pairs.lookup key = some value) : (key, value) ∈ pairs := by
  obtain ⟨before, after, rfl, -⟩ := List.lookup_eq_some_iff.1 found
  exact List.mem_append_right before List.mem_cons_self

/-- A symbol that has a word is listed with it. -/
theorem mem_symbolWords {value word : String} (named : symbolName value = some word) :
    (value, word) ∈ symbolWords :=
  mem_of_lookup named

/-- A text that is not listed as a symbol has no word. -/
theorem symbolName_eq_none {value : String} (unlisted : ∀ entry ∈ symbolWords, entry.1 ≠ value) :
    symbolName value = none := by
  cases named : symbolName value with
  | none => rfl
  | some word => exact absurd rfl (unlisted _ (mem_symbolWords named))

/-- The words for symbols are free in capitals. -/
theorem isFree_symbolName {value word : String} (named : symbolName value = some word) :
    IsFree (Text.upper word) := by
  have placed := List.mem_map_of_mem (f := fun entry => Text.upper entry.2) (mem_symbolWords named)
  exact isFree_of_mem_placeholders _ (by simp [placed])

/-- The name of a constant without anything to name it by is free. -/
theorem isFree_emptyEnumName : IsFree emptyEnumName :=
  isFree_of_mem_placeholders _ (by simp)

/-- Constant names of texts are free. -/
theorem isFree_textEnumName (value : String) :
    ∃ name, (textEnumName plain value).name = .ofText name ∧ IsFree name := by
  simp only [textEnumName]
  split
  · exact ⟨emptyEnumName, rfl, isFree_emptyEnumName⟩
  · split
    · exact ⟨camel (enumBody value) ++ "_", rfl, isFree_append_underscore _⟩
    · rename_i unreserved
      have free : IsFree (enumBody value) :=
        (ReservedWords.isReserved_plain _).1 (Bool.eq_false_iff.2 unreserved)
      split
      · exact ⟨numberStart ++ enumBody value, rfl, isFree_append_of_left _ (by simp [numberStart])⟩
      · exact ⟨enumBody value, rfl, free⟩

/-- Constant names are free. -/
theorem isFree_enumConstantName (value datatype : String) :
    ∃ name, (enumConstantName plain value datatype).name = .ofText name ∧ IsFree name := by
  rw [enumConstantName]
  split
  · exact ⟨emptyEnumName, rfl, isFree_emptyEnumName⟩
  · split
    · exact ⟨numberEnumName value, rfl, isFree_numberEnumName value⟩
    · split
      · rename_i word named
        exact ⟨Text.upper word, rfl, isFree_symbolName named⟩
      · exact isFree_textEnumName value

/-- A body that is free is free in snake case capitals as well: an underscore that snake casing puts
in frees it, and else only its case changes. -/
theorem isFree_upper_snake {name : String} (body : Chars.IsBody name.toList) (free : IsFree name) :
    IsFree (Text.upper (snake name)) := by
  by_cases member : '_' ∈ Chars.snake name.toList
  · apply isFree_of_underscore
    rw [Text.toList_upper, toList_snake]
    exact Chars.underscore_mem_upper member
  · have lowered : Text.lower (Text.upper (snake name)) = Text.lower name := by
      apply String.toList_inj.1
      simp only [Text.toList_lower, Text.toList_upper, toList_snake]
      rw [Chars.lower_upper body.snake, Chars.snake_of_not_mem member, Chars.lower_lower body]
    rw [IsFree, lowered]
    exact free

/-- There are no empty brackets to drop from a body in snake case capitals. -/
theorem dropEmptyBrackets_upper_snake {name : String} (body : Chars.IsBody name.toList) :
    dropEmptyBrackets (Text.upper (snake name)) = Text.upper (snake name) := by
  apply String.toList_inj.1
  have bodyUpper : Chars.IsBody (Text.upper (snake name)).toList := by
    rw [Text.toList_upper, toList_snake]
    exact body.snake.upper
  rw [dropEmptyBrackets, String.toList_ofList]
  exact Chars.dropEmptyBrackets_of_not_mem fun member =>
    Bool.false_ne_true (bodyUpper '[' member)

/-- The type name of an inline enumeration is free where the name of the model is. -/
theorem isFree_enumTypeNameOfModel {name : String} (body : Chars.IsBody name.toList)
    (free : IsFree name) : IsFree (enumTypeNameOfModel name) := by
  simp only [enumTypeNameOfModel, dropEmptyBrackets_upper_snake body]
  split
  · exact isFree_append_of_left _ (by simp [numberStart])
  · exact isFree_upper_snake body free

/-! ## All categories -/

/-- An outcome that is a free name. -/
def GivesFreeName (report : Report InvalidMapping Label) : Prop :=
  ∃ name, report.result = .ok (.ofText name) ∧ IsFree name

namespace Naming

/-- Where no field is overridden the name of a field is the computed one. -/
theorem fieldName_result_of_unmapped {naming : Naming}
    (names : naming.settings.nameMapping = Table.empty) (raw : String) :
    (naming.fieldName raw).result = .ok (GoBindings.fieldName naming.reserved raw).name := by
  rw [Naming.fieldName, names, overriddenBy_empty, Named.result_report]

/-- Where no field and no parameter is overridden the name of a parameter is computed from that of
the field. -/
theorem parameterName_result_of_unmapped {naming : Naming}
    (names : naming.settings.nameMapping = Table.empty)
    (parameters : naming.settings.parameterNameMapping = Table.empty) (raw : String) :
    (naming.parameterName raw).result = .ok (.ofText (parameterNameOfField naming.reserved
      (GoBindings.fieldName naming.reserved raw).name.text).name) := by
  rw [Naming.parameterName, parameters, overriddenBy_empty, Report.result_bind,
    fieldName_result_of_unmapped names]
  rfl

/-- Where no model is overridden the snake case name of a model is the computed one. -/
theorem snakeModelName_result_of_unmapped {naming : Naming}
    (models : naming.settings.modelNameMapping = Table.empty) (raw : String) :
    (naming.snakeModelName raw).result = .ok (.ofText (naming.computedModelName raw).name) := by
  rw [Naming.snakeModelName, models, overriddenBy_empty]
  rfl

/-- Where no model is overridden the type name of a model is the camel case of the computed one. -/
theorem modelName_result_of_unmapped {naming : Naming}
    (models : naming.settings.modelNameMapping = Table.empty) (raw : String) :
    (naming.modelName raw).result = .ok (.ofText (camel (naming.computedModelName raw).name)) := by
  rw [Naming.modelName, models, overriddenBy_empty]
  rfl

/-- Where no enumeration is overridden the name of a constant is the computed one. -/
theorem enumConstantName_result_of_unmapped {naming : Naming}
    (enumerations : naming.settings.enumNameMapping = Table.empty) (value datatype : String) :
    (naming.enumConstantName value datatype).result =
      .ok (GoBindings.enumConstantName naming.reserved value datatype).name := by
  rw [Naming.enumConstantName, enumerations, overriddenBy_empty, Named.result_report]

variable {naming : Naming} (nothing : naming.settings.OverridesNothing)
  (words : naming.reserved = plain)

include nothing words

omit words in
/-- The name of a field is the computed one. -/
theorem fieldName_result (raw : String) :
    (naming.fieldName raw).result = .ok (GoBindings.fieldName naming.reserved raw).name :=
  fieldName_result_of_unmapped nothing.names raw

/-- The name of a field is free. -/
theorem fieldName_givesFreeName (raw : String) : GivesFreeName (naming.fieldName raw) := by
  obtain ⟨name, given, free⟩ := isFree_fieldName raw
  exact ⟨name, by rw [fieldName_result nothing, words, given], free⟩

omit words in
/-- The name of a parameter is computed from that of the field. -/
theorem parameterName_result (raw : String) :
    (naming.parameterName raw).result = .ok (.ofText (parameterNameOfField naming.reserved
      (GoBindings.fieldName naming.reserved raw).name.text).name) :=
  parameterName_result_of_unmapped nothing.names nothing.parameters raw

/-- The name of a parameter is free. -/
theorem parameterName_givesFreeName (raw : String) : GivesFreeName (naming.parameterName raw) := by
  refine ⟨_, parameterName_result nothing raw, ?_⟩
  rw [words]
  exact isFree_parameterNameOfField _

omit words in
/-- The name of a model is the camel case of the computed one. -/
theorem modelName_result (raw : String) :
    (naming.modelName raw).result = .ok (.ofText (camel (naming.computedModelName raw).name)) :=
  modelName_result_of_unmapped nothing.models raw

/-- The name of a model is free. -/
theorem modelName_givesFreeName (raw : String) : GivesFreeName (naming.modelName raw) := by
  refine ⟨_, modelName_result nothing raw, ?_⟩
  rw [Naming.computedModelName, words]
  exact isFree_snakeModelName _

omit words in
/-- The file name of a model is free. -/
theorem modelFileName_givesFreeName (raw : String) :
    GivesFreeName (Label.ofText <$> naming.modelFileName raw) := by
  refine ⟨_, ?_, isFree_computedModelFileName naming raw⟩
  rw [Naming.modelFileName, nothing.models, overriddenBy_empty]
  rfl

/-- The name of a constant is free. -/
theorem enumConstantName_givesFreeName (value datatype : String) :
    GivesFreeName (naming.enumConstantName value datatype) := by
  obtain ⟨name, given, free⟩ := isFree_enumConstantName value datatype
  refine ⟨name, ?_, free⟩
  rw [enumConstantName_result_of_unmapped nothing.enumerations, words, given]

omit words in
/-- The type name of an inline enumeration is computed from that of the model. -/
theorem enumTypeName_result (raw : String) :
    (naming.enumTypeName raw).result =
      .ok (.ofText (enumTypeNameOfModel (camel (naming.computedModelName raw).name))) := by
  rw [Naming.enumTypeName, nothing.enumerations, overriddenBy_empty, Naming.modelTypeName]
  simp only [Report.result_bind, Report.result_map, modelName_result nothing raw]
  rfl

/-- The type name of an inline enumeration is free. -/
theorem enumTypeName_givesFreeName (raw : String) : GivesFreeName (naming.enumTypeName raw) := by
  have free : IsFree (camel (naming.computedModelName raw).name) := by
    rw [Naming.computedModelName, words]
    exact isFree_snakeModelName _
  have body : Chars.IsBody (camel (naming.computedModelName raw).name).toList :=
    isBody_camel (isBody_snakeModelName naming.reserved _)
  exact ⟨_, enumTypeName_result nothing raw, isFree_enumTypeNameOfModel body free⟩

/-- Whatever the category, its rule gives a free name. -/
theorem byRule_givesFreeName (request : NameRequest) : GivesFreeName (naming.byRule request) := by
  rw [Naming.byRule]
  cases request.category with
  | «variable» => exact fieldName_givesFreeName nothing words _
  | parameter => exact parameterName_givesFreeName nothing words _
  | modelName => exact modelName_givesFreeName nothing words _
  | modelFileName => exact modelFileName_givesFreeName nothing _
  | operationFileName => exact ⟨_, rfl, isFree_apiFileName _⟩
  | operationTestFileName => exact ⟨_, rfl, isFree_apiTestFileName _⟩
  | enumConstant => exact enumConstantName_givesFreeName nothing words _ _
  | enumTypeName => exact enumTypeName_givesFreeName nothing words _
  | operation =>
    refine ⟨_, rfl, ?_⟩
    rw [Naming.operationName, words]
    exact isFree_operationName _

end Naming

/-- Settings that override no name and reserve no further word make a naming, and every name that it
gives, for whatever text, category and type, is unreserved: no word of Go in any casing. The affixes
of model names are arbitrary. -/
theorem resolve_unreserved {settings : Settings} (nothing : settings.OverridesNothing)
    (noWords : settings.extraReservedWords = []) :
    ∃ naming, Naming.ofSettings settings = .ok naming ∧
      ∀ (raw : String) (category : NameCategory) (datatype : Option String), ∃ name,
        (naming.resolve { rawName := raw, category, datatype }).result = .ok (.ofText name) ∧
          naming.reserved.isReserved name = false ∧ Text.lower name ∉ GoWords.reserved := by
  refine ⟨⟨settings, plain⟩, ?_, fun raw category datatype => ?_⟩
  · rw [Naming.ofSettings, ReservedWords.ofSettings_eq_plain nothing noWords]
    rfl
  · have words : (⟨settings, plain⟩ : Naming).reserved = plain := rfl
    obtain ⟨name, given, free⟩ := Naming.byRule_givesFreeName nothing words
      { rawName := raw, category, datatype }
    exact ⟨name, given, (ReservedWords.isReserved_plain name).2 free, free⟩

/-- With the start `go` and the ending `type` the type of an inline enumeration of the name `int 8`
is unreserved. -/
theorem affixed_enumTypeName_unreserved :
    ∃ naming,
      Naming.ofSettings { modelNamePrefix := "go", modelNameSuffix := "type" } = .ok naming ∧
      ∃ name, (naming.resolve { rawName := "int 8", category := .enumTypeName }).result =
        .ok (.ofText name) ∧ naming.reserved.isReserved name = false := by
  have nothing : Settings.OverridesNothing { modelNamePrefix := "go", modelNameSuffix := "type" } :=
    ⟨rfl, rfl, rfl, rfl, rfl⟩
  obtain ⟨naming, built, unreserved⟩ := resolve_unreserved nothing rfl
  obtain ⟨name, given, free, -⟩ := unreserved "int 8" .enumTypeName none
  exact ⟨naming, built, name, given, free⟩

end GoBindings
