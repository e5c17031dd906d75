import GoBindings.Proofs.Naming.StableFields

/-!
# Announced corrections

The rule for fields announces that a name was moved off a reserved word, and nothing else. Whoever
reads the announcements expects a warning where the name is neither the body of its text nor the
camel case of that, and none where it is one of them. The placeholder, the start of names with a
digit and the name beside the field for unmodelled properties come without a warning, and a reserved
name can be replaced by what was written. The main statement says that the announcements mislead on
these texts and on no others, whatever words are reserved and replaced.
-/

namespace GoBindings

/-- A name that is neither a body nor the camel case of that. -/
def IsCorrected (body : String) (name : Label) : Prop :=
  name ≠ .ofText body ∧ name ≠ .ofText (camel body)

/-- Announcements that hold a warning exactly where the name of a text is corrected. -/
def TellsCorrection (raw : String) (name : Label) (notices : List Notice) : Prop :=
  (∃ notice ∈ notices, notice.severity = .warning) ↔ IsCorrected (sanitize raw) name

/-- The name that is compared with the reserved words: capitals as they are, and all else in camel
case. -/
def writtenName (body : String) : String := if isAllCapitals body then body else camel body

/-- A body that is corrected without a warning. -/
structure CorrectsSilently (reserved : ReservedWords) (body : String) : Prop where
  /-- The camel case is not reserved. -/
  free : reserved.isReserved (camel body) = false
  /-- It is empty, begins with a digit, or is the field for unmodelled properties. -/
  reason : camel body = "" ∨ startsWithDigit (camel body) = true ∨
    camel body = additionalPropertiesField

/-- The replacement of a reserved name as a field: in the place of camel case it is finished. -/
def replacedField (body : String) (replacement : Label) : Label :=
  if isAllCapitals body then replacement else replacement.mapText finishFieldName

/-- A reserved name that is corrected, with a warning, to what was written. -/
inductive WarnsNeedlessly (reserved : ReservedWords) (body : String) : Prop where
  /-- The body is the escaped name. -/
  | escaped (mixed : isAllCapitals body = false)
      (held : reserved.isReserved (camel body) = true)
      (unreplaced : reserved.replacements.find? (.ofText (camel body)) = none)
      (letter : startsWithDigit (camel body) = false) (same : body = camel body ++ "_")
  /-- The replacement of the name is the body or its camel case. -/
  | replaced (held : reserved.isReserved (writtenName body) = true) (replacement : Label)
      (found : reserved.replacements.find? (.ofText (writtenName body)) = some replacement)
      (same : replacedField body replacement = .ofText body ∨
        replacedField body replacement = .ofText (camel body))

/-! ## Warnings -/

section Warnings

variable (reserved : ReservedWords)

/-- A use of a name comes with a warning where the name is reserved. -/
theorem warns_avoid_iff (use name : String) :
    (∃ notice ∈ (reserved.avoid use name).notices, notice.severity = .warning) ↔
      reserved.isReserved name = true := by
  rw [ReservedWords.avoid]
  by_cases held : reserved.isReserved name = true
  · rw [if_pos held]
    exact iff_of_true ⟨_, List.mem_cons_self, rfl⟩ held
  · rw [if_neg held]
    refine iff_of_false ?_ held
    rintro ⟨notice, member, -⟩
    exact absurd member List.not_mem_nil

/-- A field comes with a warning where the name that is compared is reserved. -/
theorem warns_fieldName_iff (raw : String) :
    (∃ notice ∈ (fieldName reserved raw).notices, notice.severity = .warning) ↔
      reserved.isReserved (writtenName (sanitize raw)) = true := by
  simp only [fieldName, writtenName]
  by_cases capitals : isAllCapitals (sanitize raw) = true
  · rw [if_pos capitals, if_pos capitals]
    exact warns_avoid_iff reserved "variable name" (sanitize raw)
  · rw [if_neg capitals, if_neg capitals]
    by_cases empty : (camel (sanitize raw)).isEmpty = true
    · rw [if_pos empty, String.isEmpty_iff.1 empty]
      refine iff_of_false ?_ Bool.false_ne_true
      rintro ⟨notice, member, -⟩
      exact absurd member List.not_mem_nil
    · simp only [if_neg empty, Named.map]
      exact warns_avoid_iff reserved "variable name" (camel (sanitize raw))

end Warnings

/-! ## Names -/

section Names

variable {reserved : ReservedWords} {raw : String}

/-- The field of a text whose name is not reserved. -/
theorem name_fieldName_of_unreserved
    (free : reserved.isReserved (writtenName (sanitize raw)) = false) :
    (fieldName reserved raw).name = .ofText
      (if isAllCapitals (sanitize raw) then sanitize raw
        else unescapedField (camel (sanitize raw))) := by
  rw [writtenName] at free
  simp only [fieldName, unescapedField]
  by_cases capitals : isAllCapitals (sanitize raw) = true
  · rw [if_pos capitals] at free
    rw [if_pos capitals, if_pos capitals, ReservedWords.avoid, free]
    rfl
  · rw [if_neg capitals] at free
    rw [if_neg capitals, if_neg capitals]
    by_cases empty : (camel (sanitize raw)).isEmpty = true
    · rw [if_pos empty, if_pos empty]
      rfl
    · rw [if_neg empty, if_neg empty, ReservedWords.avoid, free]
      rfl

/-- The field of a text whose name is reserved. -/
theorem name_fieldName_of_reserved
    (held : reserved.isReserved (writtenName (sanitize raw)) = true) :
    (fieldName reserved raw).name =
      replacedField (sanitize raw) (reserved.escape (writtenName (sanitize raw))) := by
  simp only [fieldName, replacedField]
  rw [writtenName] at held ⊢
  by_cases capitals : isAllCapitals (sanitize raw) = true
  · rw [if_pos capitals] at held
    rw [if_pos capitals, if_pos capitals, if_pos capitals, ReservedWords.avoid, if_pos held]
    rfl
  · rw [if_neg capitals] at held
    have nonempty : ¬ (camel (sanitize raw)).isEmpty = true := by
      intro empty
      rw [String.isEmpty_iff.1 empty] at held
      exact Bool.noConfusion held
    rw [if_neg capitals, if_neg capitals, if_neg capitals, if_neg nonempty, ReservedWords.avoid,
      if_pos held]
    rfl

end Names

/-! ## Texts that mislead -/

section Misleading

variable {reserved : ReservedWords} {body : String} (isBody : Chars.IsBody body.toList)

include isBody

/-- The field of camel case is no body but the camel case. -/
theorem unescapedField_eq_camel (same : unescapedField (camel body) = body) :
    unescapedField (camel body) = camel body := by
  have settled := (isTypeName_unescapedField isBody).isCamelName.camel_eq
  rw [same] at settled
  rw [same, settled]

/-- Capitals are not corrected but for being reserved. -/
theorem CorrectsSilently.mixed (silent : CorrectsSilently reserved body) :
    isAllCapitals body = false := by
  refine Bool.eq_false_iff.2 fun capitals => ?_
  have kept := unescapedField_of_isAllCapitals isBody capitals
  exact (unescapedField_eq_self_iff (camel body)).1 kept silent.reason

/-- The field of a name that is not reserved is corrected where it is so silently. -/
theorem isCorrected_of_unreserved_iff (free : reserved.isReserved (writtenName body) = false) :
    IsCorrected body
        (.ofText (if isAllCapitals body then body else unescapedField (camel body))) ↔
      CorrectsSilently reserved body := by
  rw [IsCorrected, Ne, Ne, Label.ofText_inj, Label.ofText_inj]
  by_cases capitals : isAllCapitals body = true
  · rw [if_pos capitals]
    refine iff_of_false (fun corrected => corrected.1 rfl) fun silent => ?_
    exact Bool.noConfusion ((silent.mixed isBody).symm.trans capitals)
  · rw [writtenName, if_neg capitals] at free
    rw [if_neg capitals]
    constructor
    · intro corrected
      have reason := mt (unescapedField_eq_self_iff (camel body)).2 corrected.2
      exact ⟨free, Decidable.not_not.1 reason⟩
    · intro silent
      have corrected : unescapedField (camel body) ≠ camel body := fun same =>
        (unescapedField_eq_self_iff (camel body)).1 same silent.reason
      exact ⟨fun same => corrected (unescapedField_eq_camel isBody same), corrected⟩

/-- A name that is not replaced is escaped behind the start of fields. -/
theorem replacedField_escape (suffix : reserved.suffix = "_")
    (unreplaced : reserved.replacements.find? (.ofText (writtenName body)) = none) :
    replacedField body (reserved.escape (writtenName body)) =
      .ofText (leadingName (camel body) ++ "_") := by
  rw [ReservedWords.escape, unreplaced, Option.getD_none, suffix, replacedField, writtenName]
  by_cases capitals : isAllCapitals body = true
  · rw [if_pos capitals, if_pos capitals,
      (isTypeName_camel_of_isAllCapitals isBody capitals).leadingName_eq]
  · rw [if_neg capitals, if_neg capitals, camel_camel isBody, Label.mapText_ofText,
      finishFieldName_append_underscore]

/-- An escaped name is corrected unless the body begins with a letter in camel case and has the
underscore already. -/
theorem isCorrected_escaped_iff (nonempty : ¬ (camel body).isEmpty = true) :
    IsCorrected body (.ofText (leadingName (camel body) ++ "_")) ↔
      ¬ (startsWithDigit (camel body) = false ∧ body = camel body ++ "_") := by
  have camelName := isCamelName_camel isBody nonempty
  have other : leadingName (camel body) ++ "_" ≠ camel body := by
    intro same
    have member : '_' ∈ (camel body).toList := by
      rw [← same, String.toList_append]
      exact List.mem_append_right _ List.mem_cons_self
    exact absurd (camelName.alphanum '_' member) (by decide)
  rw [IsCorrected, Ne, Ne, Label.ofText_inj, Label.ofText_inj, and_iff_left other]
  apply not_congr
  constructor
  · intro same
    have settled : leadingName (camel body) = camel body := by
      have leads := (isTypeName_leadingName camelName).isCamelName.camel_eq
      rw [← camel_append_underscore, same] at leads
      exact leads.symm
    rw [settled] at same
    exact ⟨(leadingName_eq_self_iff (camel body)).1 settled, same.symm⟩
  · rintro ⟨letter, same⟩
    rw [(leadingName_eq_self_iff (camel body)).2 letter]
    exact same.symm

/-- The camel case of a body whose name is reserved is not empty. -/
theorem nonempty_of_isReserved (held : reserved.isReserved (writtenName body) = true) :
    ¬ (camel body).isEmpty = true := by
  intro empty
  by_cases capitals : isAllCapitals body = true
  · have type := isTypeName_camel_of_isAllCapitals isBody capitals
    exact Bool.noConfusion (type.isCamelName.isEmpty_eq_false.symm.trans empty)
  · rw [writtenName, if_neg capitals, String.isEmpty_iff.1 empty] at held
    exact Bool.noConfusion held

/-- The field of a reserved name that has no replacement is corrected unless the warning is
needless. Capitals that end with an underscore are compared as they are, and no word ends so. -/
theorem isCorrected_of_unreplaced_iff (suffix : reserved.suffix = "_")
    (unescaped : ∀ word ∈ reserved.words, ¬ ['_'] <:+ word.toList)
    (held : reserved.isReserved (writtenName body) = true)
    (unreplaced : reserved.replacements.find? (.ofText (writtenName body)) = none) :
    IsCorrected body (replacedField body (reserved.escape (writtenName body))) ↔
      ¬ WarnsNeedlessly reserved body := by
  rw [replacedField_escape isBody suffix unreplaced,
    isCorrected_escaped_iff isBody (nonempty_of_isReserved isBody held)]
  apply not_congr
  constructor
  · rintro ⟨letter, same⟩
    have mixed : isAllCapitals body = false := by
      refine Bool.eq_false_iff.2 fun capitals => ?_
      rw [writtenName, if_pos capitals, same] at held unreplaced
      have free := ReservedWords.unreserved_append_underscore unescaped (isBody_camel isBody)
        unreplaced
      exact Bool.noConfusion (free.symm.trans held)
    rw [writtenName, mixed, if_neg Bool.false_ne_true] at held unreplaced
    exact .escaped mixed held unreplaced letter same
  · rintro (⟨-, -, -, letter, same⟩ | ⟨-, replacement, found, -⟩)
    · exact ⟨letter, same⟩
    · rw [unreplaced] at found
      cases found

/-- What is corrected silently is not reserved. -/
theorem CorrectsSilently.unreserved_writtenName (silent : CorrectsSilently reserved body) :
    reserved.isReserved (writtenName body) = false := by
  rw [writtenName, silent.mixed isBody, if_neg Bool.false_ne_true]
  exact silent.free

omit isBody

/-- What is warned about needlessly is reserved. -/
theorem WarnsNeedlessly.isReserved_writtenName (needless : WarnsNeedlessly reserved body) :
    reserved.isReserved (writtenName body) = true := by
  rcases needless with ⟨mixed, held, -, -, -⟩ | ⟨held, -, -, -⟩
  · rw [writtenName, mixed, if_neg Bool.false_ne_true]
    exact held
  · exact held

/-- The field of a name that is replaced is corrected unless the warning is needless. -/
theorem isCorrected_of_replaced_iff (held : reserved.isReserved (writtenName body) = true)
    {replacement : Label}
    (found : reserved.replacements.find? (.ofText (writtenName body)) = some replacement) :
    IsCorrected body (replacedField body (reserved.escape (writtenName body))) ↔
      ¬ WarnsNeedlessly reserved body := by
  rw [ReservedWords.escape, found, Option.getD_some, IsCorrected, Ne, Ne, ← not_or]
  apply not_congr
  constructor
  · exact .replaced held replacement found
  · rintro (⟨mixed, -, unreplaced, -, -⟩ | ⟨-, other, given, same⟩)
    · rw [writtenName, mixed, if_neg Bool.false_ne_true, unreplaced] at found
      cases found
    · rw [found] at given
      cases given
      exact same

end Misleading

/-- Under all settings that are accepted and override no field, each text has a field, and what is
announced tells whether its name is corrected but on these texts: those corrected silently, whose
camel case is not reserved and is empty, begins with a digit or is the field for unmodelled
properties, and those warned about needlessly, which are what a reserved name is escaped to or
replaced by. -/
theorem corrections_told_iff {settings : Settings} (unmapped : settings.nameMapping = Table.empty)
    {naming : Naming} (accepted : Naming.ofSettings settings = .ok naming) (raw : String) :
    ∃ name, (naming.fieldName raw).result = .ok name ∧
      (TellsCorrection raw name (naming.fieldName raw).notices ↔
        ¬ CorrectsSilently naming.reserved (sanitize raw) ∧
          ¬ WarnsNeedlessly naming.reserved (sanitize raw)) := by
  obtain ⟨reserved, built, rfl⟩ := Naming.exists_of_ofSettings accepted
  obtain ⟨-, suffix, unescaped⟩ := ReservedWords.parts_of_ofSettings built
  have isBody := isBody_sanitized raw
  have notices : (Naming.fieldName ⟨settings, reserved⟩ raw).notices =
      (fieldName reserved raw).notices := by
    rw [Naming.fieldName, unmapped, Naming.overriddenBy_empty, Named.notices_report]
  refine ⟨(fieldName reserved raw).name, Naming.fieldName_result_of_unmapped unmapped raw, ?_⟩
  rw [notices, TellsCorrection, warns_fieldName_iff]
  by_cases held : reserved.isReserved (writtenName (sanitize raw)) = true
  · have loud : ¬ CorrectsSilently reserved (sanitize raw) := fun silent =>
      Bool.noConfusion ((silent.unreserved_writtenName isBody).symm.trans held)
    have told : IsCorrected (sanitize raw) (fieldName reserved raw).name ↔
        ¬ WarnsNeedlessly reserved (sanitize raw) := by
      rw [name_fieldName_of_reserved held]
      cases found : reserved.replacements.find? (.ofText (writtenName (sanitize raw))) with
      | none => exact isCorrected_of_unreplaced_iff isBody suffix unescaped held found
      | some replacement => exact isCorrected_of_replaced_iff held found
    rw [told, and_iff_right loud]
    exact iff_true_left held
  · have needed : ¬ WarnsNeedlessly reserved (sanitize raw) := fun needless =>
      held needless.isReserved_writtenName
    have free := Bool.eq_false_iff.2 held
    rw [name_fieldName_of_unreserved free, isCorrected_of_unreserved_iff isBody free,
      and_iff_left needed]
    exact iff_false_left held

/-- Where `Pet` is to be replaced by `Animal` and the word `client` is reserved, the property `pet`
has the field `Animal`, and it is told so. -/
theorem replaced_pet_told :
    ∃ naming, Naming.ofSettings
        { reservedWordsMapping := Table.ofList [("Pet", "Animal")],
          extraReservedWords := ["client"] } = .ok naming ∧
      (naming.fieldName "pet").result = .ok (.ofText "Animal") ∧
      TellsCorrection "pet" (.ofText "Animal") (naming.fieldName "pet").notices := by
  have built : ReservedWords.ofSettings
      { reservedWordsMapping := Table.ofList [("Pet", "Animal")],
        extraReservedWords := ["client"] } =
      .ok ⟨GoWords.reserved ++ ["client"], Table.ofList [("Pet", "Animal")], "_"⟩ :=
    ReservedWords.ofSettings_of_replacements rfl ["client"] rfl (by decide) (by decide) (by decide)
  have accepted := Naming.ofSettings_of_reserved built
  obtain ⟨name, named, told⟩ := corrections_told_iff rfl accepted "pet"
  have field : (fieldName ⟨GoWords.reserved ++ ["client"], Table.ofList [("Pet", "Animal")], "_"⟩
      "pet").name = .ofText "Animal" := by rfl
  have animal : name = .ofText "Animal" := by
    rw [Naming.fieldName_result_of_unmapped rfl, field] at named
    exact (Except.ok.inj named).symm
  have spelt : writtenName (sanitize "pet") = "Pet" ∧ camel (sanitize "pet") = "Pet" := by decide
  have found : (Table.ofList [((.ofText "Pet" : Label), (.ofText "Animal" : Label))]).find?
      (.ofText "Pet") = some (.ofText "Animal") := rfl
  have shown : replacedField (sanitize "pet") (.ofText "Animal") = .ofText "Animal" := rfl
  rw [animal] at named told
  refine ⟨_, accepted, named, told.2 ⟨?_, ?_⟩⟩
  · rintro ⟨-, reason⟩
    rw [spelt.2] at reason
    exact absurd reason (by decide)
  · rintro (⟨-, -, unreplaced, -, -⟩ | ⟨-, replacement, given, same⟩)
    · rw [spelt.2, found] at unreplaced
      cases unreplaced
    · rw [spelt.1, found] at given
      cases given
      rw [shown, Label.ofText_inj, Label.ofText_inj] at same
      exact absurd same (by decide)

/-- The property `200` has the field `Var200`, and nothing is told. -/
theorem digits_corrected_silently :
    ∃ naming, Naming.ofSettings {} = .ok naming ∧
      (naming.fieldName "200").result = .ok (.ofText "Var200") ∧
      (naming.fieldName "200").notices = [] ∧
      ¬ TellsCorrection "200" (.ofText "Var200") (naming.fieldName "200").notices := by
  have silent : (Naming.fieldName ⟨{}, ReservedWords.plain⟩ "200").notices = [] := by decide
  have field : ReservedWords.plain.fieldOfBody (sanitize "200") = "Var200" := by decide
  have spelt : "Var200" ≠ sanitize "200" ∧ "Var200" ≠ camel (sanitize "200") := by decide
  refine ⟨⟨{}, ReservedWords.plain⟩, Naming.ofSettings_default, ?_, silent, ?_⟩
  · rw [Naming.fieldName_result Settings.overridesNothing_default,
      ReservedWords.escapesByUnderscore_plain.name_fieldName, field]
  · rw [silent, TellsCorrection, IsCorrected, Ne, Ne, Label.ofText_inj, Label.ofText_inj]
    simp [spelt]

end GoBindings
