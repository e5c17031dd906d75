import GoBindings.Proofs.Naming.ExtraWords

/-!
# Field and parameter names named again

The name of a field or of a parameter may be given as the name of a property again, and then goes
through the same corrections by another way: an escaped name has an underscore to drop and to
regain, camel case can be all capitals, which are kept as they are, and the name of a parameter has
lost its capital. The main statements: the name of a field is its own name, and so is the name of a
parameter, whatever words are reserved; made a type, it is the camel case of the field, escaped.
-/

namespace GoBindings

open ReservedWords (plain)

namespace Chars

/-- A text without underscores that begins with a capital or a digit is its own camel case. -/
theorem camel_of_startsName {s : List Char} (body : IsBody s) (clean : '_' ∉ s)
    (starts : StartsName s) : camel s = s := by
  rw [camel, segments_of_not_mem clean, List.flatMap_singleton]
  cases s with
  | nil => rfl
  | cons c rest =>
    have ascii := body.isAscii c List.mem_cons_self
    have kept : c.toUpper = c := by
      rcases starts with capital | digit
      · exact toUpper_of_isUpper ascii capital
      · have first : c.isDigit = true := (isDigit_of_ascii ascii).symm.trans digit
        exact ascii_induction (P := fun c => c.isDigit = true → c.toUpper = c) (by decide) ascii
          first
    rw [capitalize_of_ascii rest ascii, kept]

/-- The camel case of a text in capitals is in capitals. -/
theorem isUpper_of_mem_camel {s : List Char}
    (capitals : s.all (fun c => c.isUpper || c == '_') = true) {c : Char} (member : c ∈ camel s) :
    c.isUpper = true := by
  obtain ⟨part, there, inner⟩ := List.mem_flatMap.1 member
  have capital {d : Char} (inPart : d ∈ part) : d.isUpper = true := by
    obtain ⟨stands, other⟩ := of_mem_segments there inPart
    have either := List.all_eq_true.1 capitals d stands
    exact (Bool.or_eq_true_iff.1 either).resolve_right (by simpa using other)
  cases part with
  | nil => exact absurd inner List.not_mem_nil
  | cons head rest =>
    have first := capital List.mem_cons_self
    have ascii := ascii_of_isBodyChar (isBodyChar_of_isUpper first).1
    rw [capitalize_of_ascii rest ascii, toUpper_of_isUpper ascii first] at inner
    exact capital inner

end Chars

/-- The camel case of capitals begins with one of them. -/
theorem startsCapital_camel_of_isAllCapitals {body : String} (isBody : Chars.IsBody body.toList)
    (capitals : isAllCapitals body = true) :
    Chars.startsCapital (Chars.camel body.toList) = true := by
  obtain ⟨all, some⟩ := Bool.and_eq_true_iff.1 capitals
  exact Chars.startsCapital_camel_of_dropWhile isBody (Chars.startsCapital_dropWhile all some)

/-- Capitals in camel case can be a type. -/
theorem isTypeName_camel_of_isAllCapitals {body : String} (isBody : Chars.IsBody body.toList)
    (capitals : isAllCapitals body = true) : IsTypeName (camel body) := by
  rw [IsTypeName, toList_camel]
  refine Chars.isWord_of_startsCapital (startsCapital_camel_of_isAllCapitals isBody capitals) ?_
  exact fun c member => Chars.isAlphanum_of_mem_camel isBody member

/-- Capitals that are escaped are capitals. -/
theorem isAllCapitals_escaped {body : String} (isBody : Chars.IsBody body.toList)
    (capitals : isAllCapitals body = true) : isAllCapitals (camel body ++ "_") = true := by
  have all := (Bool.and_eq_true_iff.1 capitals).1
  have leads := startsCapital_camel_of_isAllCapitals isBody capitals
  rw [isAllCapitals, String.toList_append, toList_camel, Bool.and_eq_true, List.all_append,
    List.any_append]
  refine ⟨Bool.and_eq_true_iff.2 ⟨List.all_eq_true.2 fun c member => ?_, rfl⟩,
    Bool.or_eq_true_iff.2 (.inl ?_)⟩
  · rw [Chars.isUpper_of_mem_camel all member, Bool.true_or]
  · cases chars : Chars.camel body.toList with
    | nil =>
      rw [chars] at leads
      exact Bool.noConfusion leads
    | cons c rest =>
      rw [chars] at leads
      exact List.any_eq_true.2 ⟨c, List.mem_cons_self, leads⟩

/-- Capitals in camel case are not the field for unmodelled properties, which has small letters. -/
theorem camel_ne_of_isAllCapitals {body : String} (capitals : isAllCapitals body = true) :
    camel body ≠ additionalPropertiesField := by
  intro same
  have small : 'd' ∈ Chars.camel body.toList := by
    rw [← toList_camel, same]
    decide
  have capital := Chars.isUpper_of_mem_camel (Bool.and_eq_true_iff.1 capitals).1 small
  exact absurd capital (by decide)

/-! ## Names in camel case -/

/-- A name in camel case: letters and digits, and first a capital or a digit. -/
structure IsCamelName (name : String) : Prop where
  /-- A capital or a digit comes first. -/
  starts : Chars.StartsName name.toList
  /-- There are only letters and digits in it. -/
  alphanum : ∀ c ∈ name.toList, c.isAlphanum = true

namespace IsCamelName

variable {name : String} (camelName : IsCamelName name)

include camelName

/-- A name in camel case is the body of a name. -/
theorem isBody : Chars.IsBody name.toList :=
  fun c member => Bool.or_eq_true_iff.2 (.inl (camelName.alphanum c member))

/-- A name in camel case is its own camel case. -/
theorem camel_eq : camel name = name := by
  apply String.toList_inj.1
  rw [toList_camel]
  have clean : '_' ∉ name.toList := fun member => absurd (camelName.alphanum _ member) (by decide)
  exact Chars.camel_of_startsName camelName.isBody clean camelName.starts

/-- A name in camel case is not empty. -/
theorem isEmpty_eq_false : name.isEmpty = false := by
  refine Bool.eq_false_iff.2 fun empty => ?_
  have starts := camelName.starts
  rw [String.isEmpty_iff.1 empty] at starts
  exact starts.elim Bool.noConfusion Bool.noConfusion

/-- A name in camel case that does not begin with a digit can be a type. -/
theorem isTypeName (letter : startsWithDigit name = false) : IsTypeName name := by
  refine Chars.isWord_of_startsCapital (camelName.starts.resolve_right ?_) camelName.alphanum
  exact Bool.eq_false_iff.1 letter

end IsCamelName

/-- Camel case that is not empty is a name in camel case. -/
theorem isCamelName_camel {body : String} (isBody : Chars.IsBody body.toList)
    (nonempty : ¬ (camel body).isEmpty = true) : IsCamelName (camel body) := by
  refine ⟨?_, fun c member => ?_⟩
  · rw [toList_camel]
    refine Chars.startsName_camel isBody fun empty => nonempty ?_
    rw [camel, empty]
    rfl
  · rw [toList_camel] at member
    exact Chars.isAlphanum_of_mem_camel isBody member

/-- A type name is in camel case. -/
theorem IsTypeName.isCamelName {name : String} (type : IsTypeName name) : IsCamelName name := by
  obtain ⟨c, rest, chars, capital, further⟩ := type.eq_cons
  refine ⟨.inl (by rw [chars]; exact capital), fun d member => ?_⟩
  refine Chars.isAlphanum_of_isBodyChar (type.isBody d member) ?_
  rintro rfl
  exact type.underscore_not_mem member

/-- Camel case is its own camel case. -/
theorem camel_camel {body : String} (isBody : Chars.IsBody body.toList) :
    camel (camel body) = camel body := by
  by_cases empty : (camel body).isEmpty = true
  · rw [String.isEmpty_iff.1 empty]
    rfl
  · exact (isCamelName_camel isBody empty).camel_eq

/-- Camel case does not see the underscore of an escaped name. -/
theorem camel_append_underscore (name : String) : camel (name ++ "_") = camel name := by
  apply String.toList_inj.1
  rw [toList_camel, toList_camel, String.toList_append]
  exact Chars.camel_append_single name.toList

/-! ## Finished names -/

/-- A name behind the start of fields where it begins with a digit. -/
def leadingName (name : String) : String :=
  if startsWithDigit name then digitFieldStart ++ name else name

/-- A name in camel case can be a type once it leads with a letter. -/
theorem isTypeName_leadingName {name : String} (camelName : IsCamelName name) :
    IsTypeName (leadingName name) := by
  rw [leadingName]
  split
  · have chars : (digitFieldStart ++ name).toList = 'V' :: 'a' :: 'r' :: name.toList := by
      rw [String.toList_append]
      rfl
    rw [IsTypeName, chars]
    refine Chars.isWord_of_startsCapital rfl fun c member => ?_
    have whole : c ∈ ['V', 'a', 'r'] ++ name.toList := member
    rcases List.mem_append.1 whole with early | late
    · exact List.all_eq_true.1 (show ['V', 'a', 'r'].all Char.isAlphanum = true from rfl) c early
    · exact camelName.alphanum c late
  · rename_i letter
    exact camelName.isTypeName (Bool.eq_false_iff.2 letter)

/-- The only name that leads with a letter as the field for unmodelled properties is that field. -/
theorem eq_of_leadingName {name : String} (taken : leadingName name = additionalPropertiesField) :
    name = additionalPropertiesField := by
  rw [leadingName] at taken
  split at taken
  · exact absurd taken (digitFieldStart_append_ne name)
  · exact taken

/-- A finished name leads with a letter and is moved off the field for unmodelled properties. -/
theorem finishFieldName_eq (name : String) :
    finishFieldName name = if leadingName name = additionalPropertiesField
      then leadingName name ++ "Field" else leadingName name := rfl

/-- A finished name is not the field for unmodelled properties. -/
theorem finishFieldName_ne (name : String) :
    ¬ finishFieldName name = additionalPropertiesField := by
  rw [finishFieldName_eq]
  split
  · rename_i taken
    rw [taken]
    decide
  · assumption

/-- A name in camel case can be a type once it is finished. -/
theorem isTypeName_finishFieldName {name : String} (camelName : IsCamelName name) :
    IsTypeName (finishFieldName name) := by
  rw [finishFieldName_eq]
  split
  · rename_i taken
    rw [taken, IsTypeName]
    decide
  · exact isTypeName_leadingName camelName

/-- A name leads with a letter where it begins with no digit. -/
theorem leadingName_eq_self_iff (name : String) :
    leadingName name = name ↔ startsWithDigit name = false := by
  rw [leadingName]
  by_cases digit : startsWithDigit name = true
  · have longer : digitFieldStart ++ name ≠ name := by
      intro same
      have chars := congrArg String.toList same
      rw [String.toList_append] at chars
      exact absurd (List.append_left_eq_self.1 chars) (by decide)
    rw [if_pos digit]
    exact iff_of_false longer fun letter => Bool.noConfusion (letter.symm.trans digit)
  · rw [if_neg digit]
    exact iff_of_true rfl (Bool.eq_false_iff.2 digit)

/-- A finished name is the name where that leads with a letter and is not the field for unmodelled
properties. -/
theorem finishFieldName_eq_self_iff (name : String) : finishFieldName name = name ↔
    startsWithDigit name = false ∧ name ≠ additionalPropertiesField := by
  constructor
  · intro same
    have unmoved : name ≠ additionalPropertiesField := same ▸ finishFieldName_ne name
    rw [finishFieldName_eq] at same
    split at same
    · rename_i taken
      exact absurd (eq_of_leadingName taken) unmoved
    · exact ⟨(leadingName_eq_self_iff name).1 same, unmoved⟩
  · rintro ⟨letter, unmoved⟩
    rw [finishFieldName_eq, (leadingName_eq_self_iff name).2 letter, if_neg unmoved]

/-- An escaped name is finished by leading with a letter. -/
theorem finishFieldName_append_underscore (name : String) :
    finishFieldName (name ++ "_") = leadingName name ++ "_" := by
  have digit : startsWithDigit (name ++ "_") = startsWithDigit name := by
    rw [startsWithDigit, startsWithDigit, String.toList_append]
    cases name.toList <;> rfl
  have leads : leadingName (name ++ "_") = leadingName name ++ "_" := by
    rw [leadingName, leadingName, digit]
    split
    · exact (String.append_assoc ..).symm
    · rfl
  rw [finishFieldName_eq, leads, if_neg (append_underscore_ne_additionalPropertiesField _)]

/-- A type name leads with a letter. -/
theorem IsTypeName.leadingName_eq {name : String} (type : IsTypeName name) :
    leadingName name = name := by
  have letter : startsWithDigit name = false := by
    obtain ⟨c, rest, chars, capital, -⟩ := type.eq_cons
    refine Chars.startsWithDigit_of_startsCapital type.isBody ?_
    rw [chars]
    exact capital
  rw [leadingName, letter]
  rfl

/-- The field of a name in camel case that is not reserved: the placeholder where it is empty, and
else the finished name. -/
def unescapedField (name : String) : String :=
  if name.isEmpty then emptyFieldName else finishFieldName name

/-- The field of a name is the name where that is not empty, begins with no digit and is not the
field for unmodelled properties. -/
theorem unescapedField_eq_self_iff (name : String) : unescapedField name = name ↔
    ¬ (name = "" ∨ startsWithDigit name = true ∨ name = additionalPropertiesField) := by
  rw [not_or, not_or, Bool.not_eq_true, unescapedField]
  by_cases empty : name.isEmpty = true
  · have nothing := String.isEmpty_iff.1 empty
    rw [if_pos empty, nothing]
    exact iff_of_false (by decide) fun all => all.1 rfl
  · have something : name ≠ "" := fun nothing => empty (String.isEmpty_iff.2 nothing)
    rw [if_neg empty, finishFieldName_eq_self_iff, and_iff_right something]

/-- Capitals in camel case need no correction. -/
theorem unescapedField_of_isAllCapitals {body : String} (isBody : Chars.IsBody body.toList)
    (capitals : isAllCapitals body = true) : unescapedField (camel body) = camel body := by
  have type := isTypeName_camel_of_isAllCapitals isBody capitals
  rw [unescapedField_eq_self_iff]
  rintro (empty | digit | taken)
  · have nonempty := type.isCamelName.isEmpty_eq_false
    rw [empty] at nonempty
    exact Bool.noConfusion nonempty
  · have letter := (leadingName_eq_self_iff (camel body)).1 type.leadingName_eq
    exact Bool.noConfusion (letter.symm.trans digit)
  · exact camel_ne_of_isAllCapitals capitals taken

/-- The placeholder can be a type. -/
theorem isTypeName_emptyFieldName : IsTypeName emptyFieldName := by
  rw [IsTypeName]
  decide

/-- The field of camel case can be a type. -/
theorem isTypeName_unescapedField {body : String} (isBody : Chars.IsBody body.toList) :
    IsTypeName (unescapedField (camel body)) := by
  rw [unescapedField]
  split
  · exact isTypeName_emptyFieldName
  · rename_i nonempty
    exact isTypeName_finishFieldName (isCamelName_camel isBody nonempty)

/-! ## Fields -/

namespace ReservedWords

/-- A name, with an underscore behind it where it is reserved. -/
def escaped (reserved : ReservedWords) (name : String) : String :=
  if reserved.isReserved name then name ++ "_" else name

/-- The field name that camel case gives. -/
def fieldOfCamel (reserved : ReservedWords) (name : String) : String :=
  if name.isEmpty then emptyFieldName else finishFieldName (reserved.escaped name)

/-- The field name that a body gives. -/
def fieldOfBody (reserved : ReservedWords) (body : String) : String :=
  if isAllCapitals body then
    if reserved.isReserved body then camel body ++ "_" else body
  else reserved.fieldOfCamel (camel body)

variable {reserved : ReservedWords}

/-- Camel case does not see whether a name is escaped. -/
theorem camel_escaped (name : String) : camel (reserved.escaped name) = camel name := by
  rw [escaped]
  split
  · exact camel_append_underscore name
  · rfl

/-- Camel case is escaped, or finished where it is not reserved. -/
theorem fieldOfCamel_eq {name : String} (camelName : IsCamelName name) :
    reserved.fieldOfCamel name =
      if reserved.isReserved name then leadingName name ++ "_" else finishFieldName name := by
  rw [fieldOfCamel, camelName.isEmpty_eq_false, if_neg Bool.false_ne_true, escaped]
  split
  · exact finishFieldName_append_underscore name
  · rfl

/-- A type name is a field where the field for unmodelled properties is not taken from others. -/
theorem fieldOfCamel_of_isTypeName {name : String} (type : IsTypeName name)
    (unmoved : name = additionalPropertiesField → reserved.isReserved name = true) :
    reserved.fieldOfCamel name = reserved.escaped name := by
  rw [fieldOfCamel_eq type.isCamelName, escaped, finishFieldName_eq, type.leadingName_eq]
  split
  · rfl
  · rename_i unreserved
    exact if_neg fun taken => unreserved (unmoved taken)

/-- A field in camel case is the one for unmodelled properties only where that is reserved. -/
theorem isReserved_of_camel_fieldOfCamel {name : String} (camelName : IsCamelName name)
    (taken : camel (reserved.fieldOfCamel name) = additionalPropertiesField) :
    reserved.isReserved additionalPropertiesField = true := by
  have leads : IsTypeName (leadingName name) := isTypeName_leadingName camelName
  have finished : IsTypeName (finishFieldName name) := isTypeName_finishFieldName camelName
  rw [fieldOfCamel_eq camelName] at taken
  split at taken
  · rename_i held
    rw [camel_append_underscore, leads.isCamelName.camel_eq] at taken
    rwa [← eq_of_leadingName taken]
  · rw [finished.isCamelName.camel_eq] at taken
    exact absurd taken (finishFieldName_ne name)

/-- A field is the one for unmodelled properties in camel case only where that is reserved. -/
theorem isReserved_of_camel_fieldOfBody {body : String} (isBody : Chars.IsBody body.toList)
    (taken : camel (reserved.fieldOfBody body) = additionalPropertiesField) :
    reserved.isReserved additionalPropertiesField = true := by
  rw [fieldOfBody] at taken
  by_cases capitals : isAllCapitals body = true
  · have same : camel body = additionalPropertiesField := by
      rw [if_pos capitals] at taken
      split at taken
      · rwa [camel_append_underscore, camel_camel isBody] at taken
      · exact taken
    exact absurd same (camel_ne_of_isAllCapitals capitals)
  · rw [if_neg capitals] at taken
    by_cases empty : (camel body).isEmpty = true
    · rw [fieldOfCamel, if_pos empty] at taken
      exact absurd taken (by decide)
    · exact isReserved_of_camel_fieldOfCamel (isCamelName_camel isBody empty) taken

namespace EscapesByUnderscore

variable (table : reserved.EscapesByUnderscore)

include table

/-- The field name of a text is that of its body. -/
theorem name_fieldName (raw : String) :
    (fieldName reserved raw).name = .ofText (reserved.fieldOfBody (sanitize raw)) := by
  simp only [fieldName, fieldOfBody]
  split
  · rw [name_avoid table.noReplacements, table.suffix]
  · rw [fieldOfCamel, escaped]
    split
    · rfl
    · rw [Named.map, name_avoid table.noReplacements, Label.mapText_ofText, table.suffix,
        camel_camel (isBody_sanitized raw)]

/-- An escaped name is not reserved, whether there was a reason or not. -/
theorem unreserved_of_escaped {name : String} (body : Chars.IsBody name.toList) :
    reserved.isReserved (reserved.escaped name) = false := by
  rw [escaped]
  split
  · exact table.unreserved_escaped body
  · rename_i free
    exact Bool.eq_false_iff.2 free

/-- An escaped type name is a field of its own. -/
theorem fieldOfBody_escaped {name : String} (type : IsTypeName name)
    (unmoved : name = additionalPropertiesField → reserved.isReserved name = true) :
    reserved.fieldOfBody (reserved.escaped name) = reserved.escaped name := by
  rw [fieldOfBody, table.unreserved_of_escaped type.isBody, camel_escaped,
    type.isCamelName.camel_eq, fieldOfCamel_of_isTypeName type unmoved]
  split <;> rfl

/-- A reserved name begins with no digit where none of the words does. -/
theorem startsWithDigit_of_isReserved
    (letters : ∀ word ∈ reserved.words, startsWithDigit word = false) {name : String}
    (body : Chars.IsBody name.toList) (held : reserved.isReserved name = true) :
    startsWithDigit name = false := by
  have word := ((table.isReserved_iff name).1 held).2
  exact (startsWithDigit_lower body).symm.trans (letters _ word)

/-- The field that camel case gives is an escaped type name, where the words spare corrections and
none of them begins with a digit. -/
theorem exists_eq_escaped (spares : reserved.SparesCorrections)
    (letters : ∀ word ∈ reserved.words, startsWithDigit word = false) {body : String}
    (isBody : Chars.IsBody body.toList) :
    ∃ type, IsTypeName type ∧
      (type = additionalPropertiesField → reserved.isReserved type = true) ∧
      reserved.fieldOfCamel (camel body) = reserved.escaped type := by
  have camelBody := isBody_camel isBody
  by_cases empty : (camel body).isEmpty = true
  · have free : reserved.isReserved emptyFieldName = false :=
      table.unreserved_of_not_mem (lower_emptyFieldName.symm ▸ spares.placeholder)
    refine ⟨emptyFieldName, isTypeName_emptyFieldName, fun taken => absurd taken (by decide), ?_⟩
    rw [fieldOfCamel, if_pos empty, escaped, free, if_neg Bool.false_ne_true]
  · have camelName := isCamelName_camel isBody empty
    by_cases held : reserved.isReserved (camel body) = true
    · have type := camelName.isTypeName
        (table.startsWithDigit_of_isReserved letters camelBody held)
      exact ⟨camel body, type, fun _ => held, fieldOfCamel_of_isTypeName type fun _ => held⟩
    · have isPart : IsPart (Text.lower (camel body)) := by
        rw [lower_camel_body isBody]
        exact isPart_smallLetters isBody
      have free := table.unreserved_finishFieldName spares camelBody isPart
        (fun nothing => empty (String.isEmpty_iff.2 nothing)) (Bool.eq_false_iff.2 held)
      refine ⟨finishFieldName (camel body), isTypeName_finishFieldName camelName,
        fun taken => absurd taken (finishFieldName_ne _), ?_⟩
      rw [fieldOfCamel_eq camelName, if_neg held, escaped, free, if_neg Bool.false_ne_true]

/-- A field is its own field, where the words spare corrections and none of them begins with a
digit. Capitals stay as they are, and so does what they are escaped to. -/
theorem fieldOfBody_fieldOfBody (spares : reserved.SparesCorrections)
    (letters : ∀ word ∈ reserved.words, startsWithDigit word = false) {body : String}
    (isBody : Chars.IsBody body.toList) :
    reserved.fieldOfBody (reserved.fieldOfBody body) = reserved.fieldOfBody body := by
  by_cases capitals : isAllCapitals body = true
  · by_cases held : reserved.isReserved body = true
    · have shown : reserved.fieldOfBody body = camel body ++ "_" := by
        rw [fieldOfBody, if_pos capitals, if_pos held]
      have stillCapitals := isAllCapitals_escaped isBody capitals
      have free := table.unreserved_escaped (isBody_camel isBody)
      rw [shown, fieldOfBody, if_pos stillCapitals, free, if_neg Bool.false_ne_true]
    · have shown : reserved.fieldOfBody body = body := by
        rw [fieldOfBody, if_pos capitals, if_neg held]
      rw [shown, shown]
  · obtain ⟨type, isType, unmoved, shown⟩ := table.exists_eq_escaped spares letters isBody
    rw [fieldOfBody.eq_1 reserved body, if_neg capitals, shown]
    exact table.fieldOfBody_escaped isType unmoved

end EscapesByUnderscore

end ReservedWords

/-! ## Parameters -/

/-- A name in camel case has the first letter that its camel case has. -/
theorem lowerCamel_camel {body : String} (isBody : Chars.IsBody body.toList) :
    lowerCamel (camel body) = lowerCamel body := by
  have settled := congrArg String.toList (camel_camel isBody)
  rw [toList_camel, toList_camel] at settled
  apply String.toList_inj.1
  rw [toList_lowerCamel, toList_lowerCamel, Chars.lowerCamel, Chars.lowerCamel, toList_camel,
    settled]

namespace IsTypeName

variable {type : String} (isType : IsTypeName type)

include isType

/-- A type name with a small first letter. -/
theorem lowerCamel_eq : ∃ c rest, type.toList = c :: rest ∧ c.isUpper = true ∧ c.toNat < 0x80 ∧
    (lowerCamel type).toList = c.toLower :: rest := by
  obtain ⟨c, rest, chars, capital, -⟩ := isType.eq_cons
  have ascii := Chars.ascii_of_isBodyChar (Chars.isBodyChar_of_isUpper capital).1
  have settled := congrArg String.toList isType.isCamelName.camel_eq
  rw [toList_camel] at settled
  refine ⟨c, rest, chars, capital, ascii, ?_⟩
  rw [toList_lowerCamel, Chars.lowerCamel, settled, chars, Chars.uncapitalize_of_ascii rest ascii]

/-- A type name with a small first letter is the body of a name. -/
theorem isBody_lowerCamel : Chars.IsBody (lowerCamel type).toList := by
  obtain ⟨c, rest, chars, capital, ascii, lowered⟩ := isType.lowerCamel_eq
  have body := isType.isBody
  rw [chars] at body
  rw [lowered]
  intro d member
  rcases List.mem_cons.1 member with rfl | later
  · exact Chars.isBodyChar_toLower (body c List.mem_cons_self)
  · exact body d (List.mem_cons_of_mem c later)

/-- The first letter is lowered in small letters anyway. -/
theorem lower_lowerCamel : Text.lower (lowerCamel type) = Text.lower type := by
  obtain ⟨c, rest, chars, capital, ascii, lowered⟩ := isType.lowerCamel_eq
  apply String.toList_inj.1
  rw [Text.toList_lower, Text.toList_lower, Chars.lower_of_ascii _ isType.isBody_lowerCamel.isAscii,
    Chars.lower_of_ascii _ isType.isBody.isAscii, lowered, chars, List.map_cons, List.map_cons,
    Chars.toLower_toLower ascii]

/-- With its capital back a type name is the type name again, whatever stands behind it. -/
theorem exportedName_lowerCamel_append (more : String) :
    exportedName (lowerCamel type ++ more) = type ++ more := by
  obtain ⟨c, rest, chars, capital, ascii, lowered⟩ := isType.lowerCamel_eq
  have small := Chars.isBodyChar_toLower (Chars.isBodyChar_of_isUpper capital).1
  have restored : c.toLower.toUpper = c :=
    Chars.ascii_induction (P := fun c => c.isUpper = true → c.toLower.toUpper = c) (by decide)
      ascii capital
  apply String.toList_inj.1
  rw [exportedName, Text.toList_capitalize, String.toList_append, String.toList_append, lowered,
    chars, List.cons_append, Chars.capitalize_of_ascii _ (Chars.ascii_of_isBodyChar small),
    restored, List.cons_append]

/-- A type name is the camel case of itself with a small first letter. -/
theorem camel_lowerCamel : camel (lowerCamel type) = type := by
  obtain ⟨c, rest, chars, capital, ascii, lowered⟩ := isType.lowerCamel_eq
  have clean : '_' ∉ (lowerCamel type).toList := by
    have separate := isType.underscore_not_mem
    rw [chars, List.mem_cons, not_or] at separate
    have other : c.toLower ≠ '_' := mt (Chars.toLower_eq_underscore ascii).1 (Ne.symm separate.1)
    rw [lowered, List.mem_cons, not_or]
    exact ⟨other.symm, separate.2⟩
  have exported := congrArg String.toList (isType.exportedName_lowerCamel_append "")
  rw [String.append_empty, String.append_empty, exportedName, Text.toList_capitalize] at exported
  apply String.toList_inj.1
  rw [toList_camel, Chars.camel, Chars.segments_of_not_mem clean, List.flatMap_singleton, exported]

/-- A name that begins with a small letter is not in capitals. -/
theorem isAllCapitals_lowerCamel_append (more : String) :
    isAllCapitals (lowerCamel type ++ more) = false := by
  obtain ⟨c, rest, chars, capital, ascii, lowered⟩ := isType.lowerCamel_eq
  have small : (c.toLower.isUpper || c.toLower == '_') = false :=
    Chars.ascii_induction (P := fun c => c.isUpper = true →
      (c.toLower.isUpper || c.toLower == '_') = false) (by decide) ascii capital
  rw [isAllCapitals, String.toList_append, lowered, List.cons_append, List.all_cons, small,
    Bool.false_and, Bool.false_and]

end IsTypeName

namespace ReservedWords

variable {reserved : ReservedWords}

/-- What stands behind an escaped name. -/
theorem exists_escaped_eq_append (reserved : ReservedWords) (name : String) :
    ∃ more, reserved.escaped name = name ++ more := by
  rw [escaped]
  split
  · exact ⟨"_", rfl⟩
  · exact ⟨"", String.append_empty.symm⟩

/-- An escaped name is a body. -/
theorem isBody_escaped {name : String} (body : Chars.IsBody name.toList) :
    Chars.IsBody (reserved.escaped name).toList := by
  rw [escaped]
  split
  · exact isBody_append body (Chars.isBody_of_all rfl)
  · exact body

/-- A parameter name does not see whether a type name is escaped. -/
theorem lowerCamel_escaped {type : String} (isType : IsTypeName type) :
    lowerCamel (reserved.escaped type) = lowerCamel type := by
  rw [← lowerCamel_camel (isBody_escaped isType.isBody), camel_escaped,
    isType.isCamelName.camel_eq]

/-- The parameter name of a field is escaped. -/
theorem name_parameterNameOfField (field : String) :
    (parameterNameOfField reserved field).name = reserved.escaped (lowerCamel field) := by
  rw [parameterNameOfField, escaped]
  split <;> rfl

/-- The field of a parameter name is the type name that the parameter name is with a capital. -/
theorem fieldOfBody_escaped_lowerCamel {type : String} (isType : IsTypeName type)
    (unmoved : type = additionalPropertiesField → reserved.isReserved type = true) :
    reserved.fieldOfBody (reserved.escaped (lowerCamel type)) = reserved.escaped type := by
  obtain ⟨more, shown⟩ := exists_escaped_eq_append reserved (lowerCamel type)
  have capitals : isAllCapitals (reserved.escaped (lowerCamel type)) = false := by
    rw [shown]
    exact isType.isAllCapitals_lowerCamel_append more
  rw [fieldOfBody, capitals, camel_escaped, isType.camel_lowerCamel,
    fieldOfCamel_of_isTypeName isType unmoved]
  rfl

namespace EscapesByUnderscore

variable (table : reserved.EscapesByUnderscore)

include table

/-- A field leads with a capital. -/
theorem leadsWithCapital_fieldOfBody {body : String} (isBody : Chars.IsBody body.toList) :
    LeadsWithCapital (reserved.fieldOfBody body) := by
  obtain ⟨name, named, leads⟩ :=
    leadsWithCapital_of_noReplacements table.noReplacements table.suffix body
  rw [table.name_fieldName, sanitize_of_isBody isBody] at named
  have same : reserved.fieldOfBody body = name := congrArg Label.text named
  rwa [same]

/-- Every text has a field name, which can be a type in camel case but not the field for unmodelled
properties, unless that is reserved. -/
theorem exists_fieldName (raw : String) : ∃ field, (fieldName reserved raw).name = .ofText field ∧
    Chars.IsBody field.toList ∧ IsTypeName (camel field) ∧
    (camel field = additionalPropertiesField → reserved.isReserved (camel field) = true) := by
  have body := isBody_sanitized raw
  have leads := table.leadsWithCapital_fieldOfBody body
  refine ⟨_, table.name_fieldName raw, leads.body, leads.isTypeName_camel, fun taken => ?_⟩
  rw [taken]
  exact isReserved_of_camel_fieldOfBody body taken

/-- A type name is reserved where it is so with a small first letter. -/
theorem isReserved_lowerCamel {type : String} (isType : IsTypeName type) :
    reserved.isReserved (lowerCamel type) = reserved.isReserved type :=
  table.isReserved_congr isType.isBody_lowerCamel isType.isBody isType.lower_lowerCamel

/-- An escaped parameter name with a capital is the escaped type name. -/
theorem exportedName_escaped_lowerCamel {type : String} (isType : IsTypeName type) :
    exportedName (reserved.escaped (lowerCamel type)) = reserved.escaped type := by
  rw [escaped, escaped, table.isReserved_lowerCamel isType]
  split
  · exact isType.exportedName_lowerCamel_append "_"
  · have exported := isType.exportedName_lowerCamel_append ""
    rwa [String.append_empty, String.append_empty] at exported

end EscapesByUnderscore

end ReservedWords

/-! ## Names given again -/

/-- Without settings the name of a field, given as the name of a property, is the name of that
field: whichever corrections a text needed, its name needs the same ones or none. -/
theorem fieldName_again :
    ∃ naming, Naming.ofSettings {} = .ok naming ∧ ∀ raw : String, ∃ name : String,
      (naming.fieldName raw).result = .ok (.ofText name) ∧
      (naming.fieldName name).result = .ok (.ofText name) := by
  have nothing := Settings.overridesNothing_default
  have table := ReservedWords.escapesByUnderscore_plain
  have spares : plain.SparesCorrections :=
    ReservedWords.sparesCorrections_of_starts (by decide) (by decide) (by decide)
  have letters : ∀ word ∈ plain.words, startsWithDigit word = false := by decide
  refine ⟨⟨{}, plain⟩, Naming.ofSettings_default, fun raw => ?_⟩
  have body := isBody_sanitized raw
  have leads := table.leadsWithCapital_fieldOfBody body
  refine ⟨plain.fieldOfBody (sanitize raw), ?_, ?_⟩
  · rw [Naming.fieldName_result nothing, table.name_fieldName]
  · rw [Naming.fieldName_result nothing, table.name_fieldName, sanitize_of_isBody leads.body,
      table.fieldOfBody_fieldOfBody spares letters body]

/-- Whatever further words are accepted, the name of a parameter is not reserved, it is the name of
that parameter when it is given as the name of a property, and with a capital it is the camel case
of the field, with an underscore behind it exactly where that is reserved. -/
theorem parameterName_again {settings : Settings} (names : settings.nameMapping = Table.empty)
    (parameters : settings.parameterNameMapping = Table.empty)
    (nothing : settings.reservedWordsMapping = Table.empty) {naming : Naming}
    (accepted : Naming.ofSettings settings = .ok naming) (raw : String) :
    ∃ field name : String,
      (naming.fieldName raw).result = .ok (.ofText field) ∧
      (naming.parameterName raw).result = .ok (.ofText name) ∧
      naming.reserved.isReserved name = false ∧
      (naming.parameterName name).result = .ok (.ofText name) ∧
      exportedName name =
        if naming.reserved.isReserved (camel field) then camel field ++ "_" else camel field := by
  obtain ⟨reserved, built, rfl⟩ := Naming.exists_of_ofSettings accepted
  have table := ReservedWords.escapesByUnderscore_of_noReplacements nothing built
  obtain ⟨field, named, fieldBody, isType, unmoved⟩ := table.exists_fieldName raw
  have nameBody : Chars.IsBody (reserved.escaped (lowerCamel (camel field))).toList :=
    ReservedWords.isBody_escaped isType.isBody_lowerCamel
  refine ⟨field, reserved.escaped (lowerCamel (camel field)), ?_, ?_,
    table.unreserved_of_escaped isType.isBody_lowerCamel, ?_,
    table.exportedName_escaped_lowerCamel isType⟩
  · rw [Naming.fieldName_result_of_unmapped names, named]
  · rw [Naming.parameterName_result_of_unmapped names parameters, named, Label.text_ofText,
      ReservedWords.name_parameterNameOfField, lowerCamel_camel fieldBody]
  · rw [Naming.parameterName_result_of_unmapped names parameters, table.name_fieldName,
      Label.text_ofText, ReservedWords.name_parameterNameOfField, sanitize_of_isBody nameBody,
      ReservedWords.fieldOfBody_escaped_lowerCamel isType unmoved,
      ReservedWords.lowerCamel_escaped isType]

/-- Where the words `a_b` and `empty` are reserved too, the placeholder is the field of a text
without letters, and its parameter is escaped and stays as it is. -/
theorem placeholder_parameter_again :
    ∃ naming, Naming.ofSettings { extraReservedWords := ["a_b", "empty"] } = .ok naming ∧
      ∃ name : String,
        (naming.fieldName "").result = .ok (.ofText "Empty") ∧
        (naming.parameterName "").result = .ok (.ofText name) ∧
        naming.reserved.isReserved name = false ∧
        (naming.parameterName name).result = .ok (.ofText name) ∧
        exportedName name = "Empty_" := by
  have nothing : Settings.OverridesNothing { extraReservedWords := ["a_b", "empty"] } :=
    ⟨rfl, rfl, rfl, rfl, rfl⟩
  have built := ReservedWords.ofSettings_of_small nothing ["a_b", "empty"] rfl
    (by decide) (by decide) (by decide)
  have accepted := Naming.ofSettings_of_reserved built
  obtain ⟨field, name, named, given, free, again, exported⟩ :=
    parameterName_again rfl rfl rfl accepted ""
  have placeholder : field = emptyFieldName := by
    rw [Naming.fieldName_result nothing, fieldName_empty] at named
    exact congrArg Label.text (Except.ok.inj named).symm
  have held : camel emptyFieldName = "Empty" ∧
      Text.lower "Empty" ∈ GoWords.reserved ++ ["a_b", "empty"] := by decide
  have table := ReservedWords.escapesByUnderscore_of_ofSettings nothing built
  rw [placeholder, held.1, table.isReserved_of_lower rfl (by decide) held.2] at exported
  rw [placeholder] at named
  exact ⟨_, accepted, name, named, given, free, again, exported⟩

end GoBindings
