import GoBindings.Proofs.Naming.ExportedFields

/-!
# Texts with one field

The rule for fields sees one text at a time, so different texts can have the same field. Those with
one body have it, and so have those whose bodies come to the same in camel case, which drops
underscores and capitalises what follows them. The corrections add to this: the placeholder, a start
for digits and the name beside the field for unmodelled properties are names that a text can have by
itself, and so is an escaped name. Only a body in capitals that is kept with an underscore has a
field that no other body has. The main statement tells exactly which texts have one field.
-/

namespace GoBindings

open ReservedWords (plain)

/-! ## Names in camel case -/

/-- A name in camel case that is corrected to another one: it is empty, begins with a digit, or is
the field for unmodelled properties. -/
def GivesWayTo (name other : String) : Prop :=
  (name = "" ∧ other = emptyFieldName) ∨
    (startsWithDigit name = true ∧ other = digitFieldStart ++ name) ∨
    (name = additionalPropertiesField ∧ other = additionalPropertiesField ++ "Field")

/-- Names in camel case that are equal, or of which one is corrected to the other. -/
def MeetInCamelCase (first second : String) : Prop :=
  first = second ∨ GivesWayTo first second ∨ GivesWayTo second first

instance (name other : String) : Decidable (GivesWayTo name other) :=
  inferInstanceAs (Decidable (_ ∨ _ ∨ _))

instance (first second : String) : Decidable (MeetInCamelCase first second) :=
  inferInstanceAs (Decidable (_ ∨ _ ∨ _))

namespace GivesWayTo

variable {name other : String}

/-- The correction of a name is its field. -/
theorem unescapedField_eq (gives : GivesWayTo name other) : unescapedField name = other := by
  rcases gives with ⟨rfl, rfl⟩ | ⟨digit, rfl⟩ | ⟨rfl, rfl⟩
  · rfl
  · have nonempty : ¬ name.isEmpty = true := by
      intro empty
      rw [String.isEmpty_iff.1 empty] at digit
      exact Bool.noConfusion digit
    have leads : leadingName name = digitFieldStart ++ name := by
      rw [leadingName, if_pos digit]
    rw [unescapedField, if_neg nonempty, finishFieldName_eq, leads,
      if_neg (digitFieldStart_append_ne name)]
  · decide

/-- What a name is corrected to needs no correction. -/
theorem settled (gives : GivesWayTo name other) : unescapedField other = other := by
  rcases gives with ⟨rfl, rfl⟩ | ⟨digit, rfl⟩ | ⟨rfl, rfl⟩
  · decide
  · rw [unescapedField_eq_self_iff]
    rintro (empty | again | taken)
    · have chars := congrArg String.toList empty
      rw [String.toList_append] at chars
      exact absurd (List.append_eq_nil_iff.1 chars).1 (by decide)
    · have letter : startsWithDigit (digitFieldStart ++ name) = false := by
        rw [startsWithDigit, String.toList_append]
        rfl
      exact Bool.noConfusion (letter.symm.trans again)
    · exact digitFieldStart_append_ne name taken
  · decide

/-- Only one name is corrected to another. -/
theorem unique {third : String} (first : GivesWayTo name third)
    (second : GivesWayTo other third) : name = other := by
  have placeholder (text : String) : ¬ digitFieldStart ++ text = emptyFieldName :=
    digitFieldStart_append_ne_of (by decide) text
  have moved (text : String) :
      ¬ digitFieldStart ++ text = additionalPropertiesField ++ "Field" :=
    digitFieldStart_append_ne_of (by decide) text
  rcases first with ⟨rfl, rfl⟩ | ⟨-, rfl⟩ | ⟨rfl, rfl⟩
  · rcases second with ⟨rfl, -⟩ | ⟨-, same⟩ | ⟨rfl, same⟩
    · rfl
    · exact absurd same.symm (placeholder other)
    · exact absurd same (by decide)
  · rcases second with ⟨rfl, same⟩ | ⟨-, same⟩ | ⟨rfl, same⟩
    · exact absurd same (placeholder name)
    · have chars := congrArg String.toList same
      rw [String.toList_append, String.toList_append] at chars
      exact String.toList_inj.1 (List.append_cancel_left chars)
    · exact absurd same (moved name)
  · rcases second with ⟨rfl, same⟩ | ⟨-, same⟩ | ⟨rfl, -⟩
    · exact absurd same (by decide)
    · exact absurd same.symm (moved other)
    · rfl

end GivesWayTo

/-- A name is its field or is corrected to it. -/
theorem unescapedField_cases (name : String) :
    unescapedField name = name ∨ GivesWayTo name (unescapedField name) := by
  by_cases kept : unescapedField name = name
  · exact .inl kept
  · have reason := Decidable.not_not.1 (mt (unescapedField_eq_self_iff name).2 kept)
    have gives : ∃ other, GivesWayTo name other := by
      rcases reason with empty | digit | taken
      · exact ⟨_, .inl ⟨empty, rfl⟩⟩
      · exact ⟨_, .inr (.inl ⟨digit, rfl⟩)⟩
      · exact ⟨_, .inr (.inr ⟨taken, rfl⟩)⟩
    obtain ⟨other, given⟩ := gives
    rw [given.unescapedField_eq]
    exact .inr given

/-- Names in camel case have one field where they meet. -/
theorem unescapedField_eq_iff (first second : String) :
    unescapedField first = unescapedField second ↔ MeetInCamelCase first second := by
  constructor
  · intro same
    rcases unescapedField_cases first with kept | gives
    · rcases unescapedField_cases second with also | other
      · exact .inl (kept.symm.trans (same.trans also))
      · rw [← same, kept] at other
        exact .inr (.inr other)
    · rcases unescapedField_cases second with also | other
      · rw [same, also] at gives
        exact .inr (.inl gives)
      · rw [same] at gives
        exact .inl (gives.unique other)
  · rintro (rfl | gives | gives)
    · rfl
    · exact gives.unescapedField_eq.trans gives.settled.symm
    · exact gives.settled.trans gives.unescapedField_eq.symm

/-! ## Fields -/

/-- A body in capitals that is kept with its underscores: it has one, and is no reserved word with
the underscore of its escape. -/
def KeepsUnderscores (body : String) : Prop :=
  isAllCapitals body = true ∧ '_' ∈ body.toList ∧
    ¬ (plain.isReserved (camel body) = true ∧ body = camel body ++ "_")

/-- Texts that have one field: their bodies are equal, or their camel cases meet and neither body is
kept with underscores. -/
def ShareField (first second : String) : Prop :=
  sanitize first = sanitize second ∨
    (¬ KeepsUnderscores (sanitize first) ∧ ¬ KeepsUnderscores (sanitize second) ∧
      MeetInCamelCase (camel (sanitize first)) (camel (sanitize second)))

instance (body : String) : Decidable (KeepsUnderscores body) :=
  inferInstanceAs (Decidable (_ ∧ _ ∧ ¬ _))

instance (first second : String) : Decidable (ShareField first second) :=
  inferInstanceAs (Decidable (_ ∨ _))

/-- The escaped forms of type names are different. -/
theorem escaped_inj {reserved : ReservedWords} {first second : String} (left : IsTypeName first)
    (right : IsTypeName second) :
    reserved.escaped first = reserved.escaped second ↔ first = second := by
  constructor
  · intro same
    have camels := congrArg camel same
    rwa [ReservedWords.camel_escaped, ReservedWords.camel_escaped, left.isCamelName.camel_eq,
      right.isCamelName.camel_eq] at camels
  · exact congrArg reserved.escaped

/-- The field for unmodelled properties is no word of Go. -/
theorem additionalPropertiesField_unreserved :
    plain.isReserved additionalPropertiesField = false :=
  (ReservedWords.isReserved_plain _).2 (by decide)

section Bodies

variable {body : String} (isBody : Chars.IsBody body.toList)

include isBody

/-- The field of camel case is escaped after all other corrections, though it is compared with the
reserved words before them. -/
theorem fieldOfCamel_plain :
    plain.fieldOfCamel (camel body) = plain.escaped (unescapedField (camel body)) := by
  by_cases empty : (camel body).isEmpty = true
  · have free : plain.isReserved emptyFieldName = false :=
      (ReservedWords.isReserved_plain _).2 (by decide)
    rw [ReservedWords.fieldOfCamel, if_pos empty, unescapedField, if_pos empty,
      ReservedWords.escaped, free, if_neg Bool.false_ne_true]
  · have camelBody := isBody_camel isBody
    rw [ReservedWords.fieldOfCamel_eq (isCamelName_camel isBody empty), unescapedField,
      if_neg empty]
    by_cases held : plain.isReserved (camel body) = true
    · have letter := ReservedWords.escapesByUnderscore_plain.startsWithDigit_of_isReserved
        (by decide) camelBody held
      have unmoved : camel body ≠ additionalPropertiesField := by
        intro taken
        rw [taken, additionalPropertiesField_unreserved] at held
        exact Bool.noConfusion held
      rw [if_pos held, (leadingName_eq_self_iff _).2 letter,
        (finishFieldName_eq_self_iff _).2 ⟨letter, unmoved⟩, ReservedWords.escaped, if_pos held]
    · have free := (ReservedWords.isReserved_plain _).1 (Bool.eq_false_iff.2 held)
      have stillFree : plain.isReserved (finishFieldName (camel body)) = false :=
        (ReservedWords.isReserved_plain _).2 (isFree_finishFieldName camelBody free)
      rw [if_neg held, ReservedWords.escaped, stillFree, if_neg Bool.false_ne_true]

/-- A body that is not kept with underscores has the field that its camel case gives. Capitals with
an underscore that are not kept are what their camel case is escaped to, and stay as they are
because no word of Go has an underscore. -/
theorem fieldOfBody_of_not_keeps (plainly : ¬ KeepsUnderscores body) :
    plain.fieldOfBody body = plain.escaped (unescapedField (camel body)) := by
  by_cases capitals : isAllCapitals body = true
  · rw [unescapedField_of_isAllCapitals isBody capitals, ReservedWords.fieldOfBody,
      if_pos capitals]
    by_cases separated : '_' ∈ body.toList
    · have escaped : plain.isReserved (camel body) = true ∧ body = camel body ++ "_" :=
        Decidable.not_not.1 fun other => plainly ⟨capitals, separated, other⟩
      have free : plain.isReserved body = false :=
        (ReservedWords.isReserved_plain body).2 (isFree_of_underscore separated)
      rw [free, if_neg Bool.false_ne_true, ReservedWords.escaped, if_pos escaped.1]
      exact escaped.2
    · have starts : IsExported body := (isExported_iff_of_isAllCapitals capitals).2 fun begins =>
        separated (underscore_mem_of_startsWith begins List.mem_cons_self)
      have same : camel body = body := by
        apply String.toList_inj.1
        rw [toList_camel]
        exact Chars.camel_of_startsName isBody separated (.inl starts)
      rw [same, ReservedWords.escaped]
  · rw [ReservedWords.fieldOfBody, if_neg capitals, fieldOfCamel_plain isBody]

omit isBody

/-- A body that is kept with underscores is its own field. -/
theorem fieldOfBody_of_keeps (keeps : KeepsUnderscores body) : plain.fieldOfBody body = body := by
  have free : plain.isReserved body = false :=
    (ReservedWords.isReserved_plain body).2 (isFree_of_underscore keeps.2.1)
  rw [ReservedWords.fieldOfBody, if_pos keeps.1, free, if_neg Bool.false_ne_true]

/-- A body that is kept with underscores is no escaped type name. -/
theorem ne_escaped_of_keeps (keeps : KeepsUnderscores body) {type : String}
    (isType : IsTypeName type) : body ≠ plain.escaped type := by
  intro same
  by_cases held : plain.isReserved type = true
  · have escaped : body = type ++ "_" := by
      rw [same, ReservedWords.escaped, if_pos held]
    have camels : camel body = type := by
      rw [escaped, camel_append_underscore, isType.isCamelName.camel_eq]
    rw [KeepsUnderscores, camels] at keeps
    exact keeps.2.2 ⟨held, escaped⟩
  · have kept : body = type := by
      rw [same, ReservedWords.escaped, if_neg held]
    have separated := keeps.2.1
    rw [kept] at separated
    exact isType.underscore_not_mem separated

end Bodies

/-- Two texts have one field exactly where their bodies are equal or meet in camel case; but a body
that is kept with underscores meets no other, as its field has an underscore that no escape put
there. -/
theorem name_fieldName_eq_iff (first second : String) :
    (fieldName plain first).name = (fieldName plain second).name ↔ ShareField first second := by
  have left := isBody_sanitized first
  have right := isBody_sanitized second
  have leftType := isTypeName_unescapedField left
  have rightType := isTypeName_unescapedField right
  rw [ReservedWords.escapesByUnderscore_plain.name_fieldName,
    ReservedWords.escapesByUnderscore_plain.name_fieldName, Label.ofText_inj, ShareField]
  by_cases keeps : KeepsUnderscores (sanitize first)
  · by_cases also : KeepsUnderscores (sanitize second)
    · rw [fieldOfBody_of_keeps keeps, fieldOfBody_of_keeps also]
      exact ⟨.inl, fun share => share.resolve_right fun both => both.1 keeps⟩
    · rw [fieldOfBody_of_keeps keeps, fieldOfBody_of_not_keeps right also]
      refine iff_of_false (ne_escaped_of_keeps keeps rightType) ?_
      rintro (same | both)
      · rw [same] at keeps
        exact also keeps
      · exact both.1 keeps
  · by_cases also : KeepsUnderscores (sanitize second)
    · rw [fieldOfBody_of_keeps also, fieldOfBody_of_not_keeps left keeps]
      refine iff_of_false (ne_escaped_of_keeps also leftType).symm ?_
      rintro (same | both)
      · rw [← same] at also
        exact keeps also
      · exact both.2.1 also
    · rw [fieldOfBody_of_not_keeps left keeps, fieldOfBody_of_not_keeps right also,
        escaped_inj leftType rightType, unescapedField_eq_iff]
      constructor
      · exact fun meets => .inr ⟨keeps, also, meets⟩
      · rintro (same | both)
        · exact .inl (congrArg camel same)
        · exact both.2.2

/-- Of these pairs only the last has two fields. -/
example : ShareField "pet_id" "petId" ∧ ShareField "" "Empty" ∧ ShareField "200" "Var200" ∧
    ShareField "TYPE" "TYPE_" ∧ ¬ ShareField "API_KEY" "APIKEY" := by decide

end GoBindings
