import GoBindings.Proofs.Naming.Spelling
import GoBindings.Proofs.Naming.Underscores

/-!
# Further reserved words

Settings may reserve further words. A rule compares a name with them and corrects it, but what it
puts into the place of the name is not compared again: the placeholder of fields, and a name behind
`Var`, `Model` or `Call` or before `Field`. An escaped name needs no second look, since no accepted
word ends with the underscore. So a table is honoured by the rules for fields, models and operations
exactly where none of its words is one that a correction gives; the main statement says which words
those are.
-/

namespace GoBindings

/-! ## Small letters -/

/-- The letters and digits of a body in small letters. -/
def smallLetters (body : String) : String :=
  String.ofList (Chars.lower (Chars.bare body.toList))

/-- A word without its underscores. -/
def withoutUnderscores (word : String) : String := String.ofList (Chars.bare word.toList)

/-- A text of small letters and digits. -/
structure IsPart (part : String) : Prop where
  /-- There are only ASCII letters, digits and underscores in it. -/
  body : Chars.IsBody part.toList
  /-- There is no underscore in it, and its letters are small. -/
  small : smallLetters part = part

/-- The small letters of a body are its characters without underscores, lowered. -/
@[simp] theorem toList_smallLetters (body : String) :
    (smallLetters body).toList = Chars.lower (Chars.bare body.toList) := by
  simp [smallLetters]

/-- A word without underscores has its other characters in order. -/
@[simp] theorem toList_withoutUnderscores (word : String) :
    (withoutUnderscores word).toList = Chars.bare word.toList := by
  simp [withoutUnderscores]

/-- The small letters of a body are a text of small letters and digits. -/
theorem isPart_smallLetters {body : String} (isBody : Chars.IsBody body.toList) :
    IsPart (smallLetters body) := by
  have bareBody := isBody.bare
  refine ⟨by rw [toList_smallLetters]; exact bareBody.lower, String.toList_inj.1 ?_⟩
  rw [toList_smallLetters, toList_smallLetters, Chars.bare_lower bareBody.isAscii,
    Chars.bare_of_not_mem (Chars.underscore_not_mem_bare _), Chars.lower_lower bareBody]

/-- The camel case of a body has its letters. -/
theorem lower_camel_body {body : String} (isBody : Chars.IsBody body.toList) :
    Text.lower (camel body) = smallLetters body := by
  apply String.toList_inj.1
  rw [Text.toList_lower, toList_camel, toList_smallLetters, Chars.lower_camel isBody]

/-- The camel case of the snake case of a body has its letters. -/
theorem lower_camel_snake_body {body : String} (isBody : Chars.IsBody body.toList) :
    Text.lower (camel (snake body)) = smallLetters body := by
  apply String.toList_inj.1
  rw [Text.toList_lower, toList_camel, toList_snake, toList_smallLetters,
    Chars.lower_camel_snake isBody]

/-- A body in small letters has the letters of the body. -/
theorem withoutUnderscores_lower {body : String} (isBody : Chars.IsBody body.toList) :
    withoutUnderscores (Text.lower body) = smallLetters body := by
  apply String.toList_inj.1
  rw [toList_withoutUnderscores, Text.toList_lower, toList_smallLetters,
    Chars.bare_lower isBody.isAscii]

/-- A body lowers to the small letters of its start and those of the rest. -/
theorem lower_append_camel {name start : String} {rest : List Char}
    (chars : name.toList = start.toList ++ rest) (body : Chars.IsBody name.toList) :
    Text.lower name = Text.lower start ++ String.ofList (Chars.lower rest) := by
  rw [chars] at body
  obtain ⟨startBody, restBody⟩ := Chars.isBody_append.1 body
  apply String.toList_inj.1
  rw [Text.toList_lower, chars, Chars.lower_append startBody.isAscii restBody.isAscii,
    String.toList_append, String.toList_ofList, Text.toList_lower]

/-! ## Accepted tables -/

namespace ReservedWords

/-- A table without replacements that escapes by an underscore, with which no word of it ends. -/
structure EscapesByUnderscore (reserved : ReservedWords) : Prop where
  /-- No name has a replacement. -/
  noReplacements : reserved.replacements = Table.empty
  /-- The escape is the underscore. -/
  suffix : reserved.suffix = "_"
  /-- No word looks escaped. -/
  unescaped : ∀ word ∈ reserved.words, ¬ ['_'] <:+ word.toList

/-- An accepted table holds the words in small letters, and none of them clashes with its suffix. -/
theorem of_build {words : List String} {replacements : Table Label Label} {suffix : String}
    {reserved : ReservedWords} (built : build words replacements suffix = .ok reserved) :
    reserved = ⟨(words.map Text.lower).eraseDups, replacements, suffix⟩ ∧
      clashing suffix reserved.words = [] := by
  simp only [build] at built
  split at built
  · cases built
  · split at built
    · cases built
    · rename_i clean
      split at built
      · cases built
      · cases built
        exact ⟨rfl, by simpa using clean⟩

/-- Without replacements a name is reserved where it is not empty and a word in small letters. -/
theorem isReserved_iff_of_noReplacements {reserved : ReservedWords}
    (noReplacements : reserved.replacements = Table.empty) (name : String) :
    reserved.isReserved name = true ↔ name ≠ "" ∧ Text.lower name ∈ reserved.words := by
  have replaced : reserved.replacements.contains (.ofText name) = false := by
    rw [noReplacements]
    rfl
  simp [isReserved, replaced]

/-- Accepted settings hold their replacements and escape by an underscore, with which none of the
words ends. -/
theorem parts_of_ofSettings {settings : Settings} {reserved : ReservedWords}
    (accepted : ofSettings settings = .ok reserved) :
    reserved.replacements = settings.reservedWordsMapping ∧ reserved.suffix = "_" ∧
      ∀ word ∈ reserved.words, ¬ ['_'] <:+ word.toList := by
  obtain ⟨made, clean⟩ := of_build accepted
  refine ⟨by rw [made], by rw [made], fun word member ending => ?_⟩
  refine List.filter_eq_nil_iff.1 clean word member (Bool.or_eq_true_iff.2 (.inr ?_))
  exact (Text.endsWith_iff "_" word).2 ending

/-- A name with an underscore behind it is reserved only through a replacement where no word ends
with an underscore. -/
theorem unreserved_append_underscore {reserved : ReservedWords}
    (unescaped : ∀ word ∈ reserved.words, ¬ ['_'] <:+ word.toList) {name : String}
    (body : Chars.IsBody name.toList)
    (unreplaced : reserved.replacements.find? (.ofText (name ++ "_")) = none) :
    reserved.isReserved (name ++ "_") = false := by
  have ending : ['_'] <:+ (Text.lower (name ++ "_")).toList := by
    rw [Text.toList_lower, String.toList_append,
      Chars.lower_append body.isAscii (Chars.isBody_of_all rfl).isAscii]
    exact List.suffix_append _ _
  have absent : Text.lower (name ++ "_") ∉ reserved.words :=
    fun member => unescaped _ member ending
  simp [isReserved, Table.contains, unreplaced, absent]

/-- Settings without replacements escape by an underscore, whatever words they reserve. -/
theorem escapesByUnderscore_of_noReplacements {settings : Settings}
    (nothing : settings.reservedWordsMapping = Table.empty) {reserved : ReservedWords}
    (accepted : ofSettings settings = .ok reserved) : reserved.EscapesByUnderscore := by
  obtain ⟨replacements, suffix, unescaped⟩ := parts_of_ofSettings accepted
  exact ⟨replacements.trans nothing, suffix, unescaped⟩

/-- Settings without overrides escape by an underscore. -/
theorem escapesByUnderscore_of_ofSettings {settings : Settings}
    (nothing : settings.OverridesNothing) {reserved : ReservedWords}
    (accepted : ofSettings settings = .ok reserved) : reserved.EscapesByUnderscore :=
  escapesByUnderscore_of_noReplacements nothing.replacements accepted

/-- The words of Go alone are escaped by an underscore. -/
theorem escapesByUnderscore_plain : plain.EscapesByUnderscore :=
  escapesByUnderscore_of_ofSettings Settings.overridesNothing_default
    (ofSettings_eq_plain Settings.overridesNothing_default rfl)

/-- Settings that reserve further words in small letters and replace no name by nothing add both to
the words of Go. -/
theorem ofSettings_of_replacements {settings : Settings}
    (given : settings.reservedWordsMapping.entries.find? (·.2.isBlank) = none)
    (further : List String) (words : settings.extraReservedWords.map Label.text = further)
    (small : ∀ word ∈ further, Text.lower word = word)
    (once : (GoWords.reserved ++ further).eraseDups = GoWords.reserved ++ further)
    (clean : clashing "_" further = []) :
    ofSettings settings =
      .ok ⟨GoWords.reserved ++ further, settings.reservedWordsMapping, "_"⟩ := by
  have lowered : (GoWords.reserved ++ further).map Text.lower = GoWords.reserved ++ further := by
    refine (List.map_congr_left fun word member => ?_).trans (List.map_id _)
    exact (List.mem_append.1 member).elim lower_of_reserved (small word)
  have noClash : clashing "_" (GoWords.reserved ++ further) = [] := by
    rw [clashing, List.filter_append]
    exact List.append_eq_nil_iff.2 ⟨clashing_reserved, clean⟩
  rw [ofSettings, words]
  simp only [build, lowered, once, noClash, given]
  rfl

/-- Settings that reserve further words in small letters add them to the words of Go. -/
theorem ofSettings_of_small {settings : Settings} (nothing : settings.OverridesNothing)
    (further : List String) (given : settings.extraReservedWords.map Label.text = further)
    (small : ∀ word ∈ further, Text.lower word = word)
    (once : (GoWords.reserved ++ further).eraseDups = GoWords.reserved ++ further)
    (clean : clashing "_" further = []) :
    ofSettings settings = .ok ⟨GoWords.reserved ++ further, Table.empty, "_"⟩ := by
  have noBlank : settings.reservedWordsMapping.entries.find? (·.2.isBlank) = none := by
    rw [nothing.replacements]
    rfl
  rw [ofSettings_of_replacements noBlank further given small once clean, nothing.replacements]

namespace EscapesByUnderscore

variable {reserved : ReservedWords} (table : reserved.EscapesByUnderscore)

include table

/-- A name is reserved where it is not empty and a word in small letters. -/
theorem isReserved_iff (name : String) :
    reserved.isReserved name = true ↔ name ≠ "" ∧ Text.lower name ∈ reserved.words :=
  isReserved_iff_of_noReplacements table.noReplacements name

/-- A name that is no word in small letters is not reserved. -/
theorem unreserved_of_not_mem {name : String} (absent : Text.lower name ∉ reserved.words) :
    reserved.isReserved name = false :=
  Bool.eq_false_iff.2 fun held => absent ((table.isReserved_iff name).1 held).2

/-- A name that a word is in small letters is reserved. -/
theorem isReserved_of_lower {name word : String} (lowered : Text.lower name = word)
    (nonempty : word ≠ "") (member : word ∈ reserved.words) : reserved.isReserved name = true := by
  refine (table.isReserved_iff name).2 ⟨?_, lowered.symm ▸ member⟩
  rintro rfl
  exact nonempty lowered.symm

/-- An escaped name is not reserved. -/
theorem unreserved_escaped {name : String} (body : Chars.IsBody name.toList) :
    reserved.isReserved (name ++ "_") = false := by
  have unreplaced : reserved.replacements.find? (.ofText (name ++ "_")) = none := by
    rw [table.noReplacements, Table.find?_empty]
  exact unreserved_append_underscore table.unescaped body unreplaced

end EscapesByUnderscore

/-! ## What corrections give -/

/-- Whether a model or operation of some letters is corrected: it has no letters, begins with a
digit, or has the letters of a reserved word. -/
def Corrects (reserved : ReservedWords) (part : String) : Prop :=
  part = "" ∨ startsWithDigit part = true ∨ ∃ word ∈ reserved.words, withoutUnderscores word = part

/-- A table of which no word is one that a correction gives. -/
structure SparesCorrections (reserved : ReservedWords) : Prop where
  /-- The placeholder of fields is free. -/
  placeholder : "empty" ∉ reserved.words
  /-- The name that keeps off the field for unmodelled properties is free, or not needed. -/
  moved : "additionalpropertiesfield" ∈ reserved.words → "additionalproperties" ∈ reserved.words
  /-- A field that begins with a digit is free behind its start, or escaped before. -/
  fields : ∀ part, IsPart part → startsWithDigit part = true →
    "var" ++ part ∈ reserved.words → part ∈ reserved.words
  /-- A corrected model is free. -/
  models : ∀ part, IsPart part → reserved.Corrects part → "model" ++ part ∉ reserved.words
  /-- A corrected operation is free. -/
  operations : ∀ part, IsPart part → reserved.Corrects part → "call" ++ part ∉ reserved.words

/-- Words that do not begin like corrected names spare the corrections. -/
theorem sparesCorrections_of_starts {reserved : ReservedWords}
    (placeholder : "empty" ∉ reserved.words)
    (moved : "additionalpropertiesfield" ∉ reserved.words)
    (starts : ∀ word ∈ reserved.words, ¬ "model".toList <+: word.toList ∧
      ¬ "call".toList <+: word.toList ∧ ("var".toList <+: word.toList → word = "var")) :
    reserved.SparesCorrections := by
  refine ⟨placeholder, fun member => absurd member moved, fun part _ digit member => ?_,
    fun part _ _ member => (starts _ member).1 (prefix_toList_append "model" part),
    fun part _ _ member => (starts _ member).2.1 (prefix_toList_append "call" part)⟩
  have alone : "var" ++ part = "var" := (starts _ member).2.2 (prefix_toList_append "var" part)
  have nothing : part.toList = [] := by
    rw [← String.toList_inj, String.toList_append] at alone
    exact List.append_right_eq_self.1 alone
  rw [startsWithDigit, nothing] at digit
  exact Bool.noConfusion digit

end ReservedWords

/-! ## Letters of names -/

/-- A text of small letters and digits has no underscores to lose. -/
theorem withoutUnderscores_of_isPart {part : String} (isPart : IsPart part) :
    withoutUnderscores part = part := by
  have clean : '_' ∉ part.toList := by
    rw [← isPart.small, toList_smallLetters, ← Chars.bare_lower isPart.body.isAscii]
    exact Chars.underscore_not_mem_bare _
  apply String.toList_inj.1
  rw [toList_withoutUnderscores, Chars.bare_of_not_mem clean]

/-- A text of small letters and digits is in small letters. -/
theorem lower_of_isPart {part : String} (isPart : IsPart part) :
    Chars.lower part.toList = part.toList := by
  have small := congrArg String.toList isPart.small
  have letters := congrArg String.toList (withoutUnderscores_of_isPart isPart)
  rw [toList_withoutUnderscores] at letters
  rwa [toList_smallLetters, letters] at small

/-- A text is lowered to itself where each of its characters is. -/
theorem map_toLower_eq_self {s : List Char} :
    s.map Char.toLower = s ↔ ∀ c ∈ s, c.toLower = c := by
  rw [← List.map_inj_left, List.map_id']

/-- A word whose letters are small is a body in small letters. -/
theorem small_of_isPart_withoutUnderscores {word : String}
    (isPart : IsPart (withoutUnderscores word)) :
    Chars.IsBody word.toList ∧ Text.lower word = word := by
  have letters := lower_of_isPart isPart
  rw [Chars.lower_of_ascii _ isPart.body.isAscii] at letters
  have spelt : ∀ c ∈ word.toList, Chars.isBodyChar c = true ∧ c.toLower = c := by
    intro c there
    by_cases separator : c = '_'
    · rw [separator]
      exact ⟨rfl, rfl⟩
    · have inPart : c ∈ (withoutUnderscores word).toList := by
        rw [toList_withoutUnderscores]
        exact List.mem_filter.2 ⟨there, bne_iff_ne.2 separator⟩
      exact ⟨isPart.body c inPart, map_toLower_eq_self.1 letters c inPart⟩
  have wordBody : Chars.IsBody word.toList := fun c there => (spelt c there).1
  refine ⟨wordBody, String.toList_inj.1 ?_⟩
  rw [Text.toList_lower, Chars.lower_of_ascii _ wordBody.isAscii]
  exact map_toLower_eq_self.2 fun c there => (spelt c there).2

/-- Only the empty body lowers to nothing. -/
theorem isEmpty_lower {name : String} (body : Chars.IsBody name.toList) :
    (Text.lower name).isEmpty = name.isEmpty := by
  rw [Bool.eq_iff_iff, String.isEmpty_iff, String.isEmpty_iff, ← String.toList_inj,
    ← String.toList_inj, Text.toList_lower, Chars.lower_of_ascii _ body.isAscii]
  exact List.map_eq_nil_iff

/-- A body begins with a digit where it does so in small letters. -/
theorem startsWithDigit_lower {name : String} (body : Chars.IsBody name.toList) :
    startsWithDigit (Text.lower name) = startsWithDigit name := by
  rw [startsWithDigit, startsWithDigit, Text.toList_lower, Chars.lower_of_ascii _ body.isAscii]
  cases chars : name.toList with
  | nil => rfl
  | cons c rest =>
    rw [chars] at body
    have first := body c List.mem_cons_self
    have lowered : Chars.isBodyChar c.toLower = true := Chars.isBodyChar_toLower first
    change Unicode.isDigit c.toLower = Unicode.isDigit c
    rw [Chars.isDigit_of_ascii (Chars.ascii_of_isBodyChar lowered),
      Chars.isDigit_of_ascii (Chars.ascii_of_isBodyChar first)]
    exact Chars.ascii_induction (P := fun c => c.toLower.isDigit = c.isDigit) (by decide)
      (Chars.ascii_of_isBodyChar first)

/-- A corrected model name in small letters. -/
theorem lower_correctedModelName {body : String} (isBody : Chars.IsBody body.toList) :
    Text.lower (camel (snake (modelStart ++ body))) = "model" ++ smallLetters body := by
  have chars : (camel (snake (modelStart ++ body))).toList =
      "Model".toList ++ Chars.camel (Chars.snake body.toList) := toList_correctedModelName isBody
  have whole : Chars.IsBody (camel (snake (modelStart ++ body))).toList := by
    rw [chars]
    exact Chars.isBody_append.2 ⟨Chars.isBody_of_all rfl, isBody.snake.camel⟩
  have small : Text.lower "Model" = "model" := by decide
  rw [lower_append_camel chars whole, small, Chars.lower_camel_snake isBody]
  rfl

/-- A corrected operation name in small letters. -/
theorem lower_correctedOperationName {body : String} (isBody : Chars.IsBody body.toList) :
    Text.lower (camel (operationStart ++ body)) = "call" ++ smallLetters body := by
  have chars : (camel (operationStart ++ body)).toList =
      "Call".toList ++ Chars.camel body.toList := toList_correctedOperationName body
  have whole : Chars.IsBody (camel (operationStart ++ body)).toList := by
    rw [chars]
    exact Chars.isBody_append.2 ⟨Chars.isBody_of_all rfl, isBody.camel⟩
  have small : Text.lower "Call" = "call" := by decide
  rw [lower_append_camel chars whole, small, Chars.lower_camel isBody]
  rfl

/-- A body is its own identifier body. -/
theorem sanitize_of_isBody {body : String} (isBody : Chars.IsBody body.toList) :
    sanitize body = body := by
  apply String.toList_inj.1
  rw [toList_sanitize, Chars.sanitize_of_isBodyChar isBody]

/-- An identifier body is its own. -/
theorem sanitize_sanitize (raw : String) : sanitize (sanitize raw) = sanitize raw :=
  sanitize_of_isBody (isBody_sanitized raw)

/-- The placeholder for empty names in small letters. -/
theorem lower_emptyFieldName : Text.lower emptyFieldName = "empty" := by decide

/-- The name of the field of additional properties in small letters. -/
theorem lower_additionalPropertiesField :
    Text.lower additionalPropertiesField = "additionalproperties" := by decide

/-- The name that gives way to the field of additional properties, in small letters. -/
theorem lower_movedField :
    Text.lower (additionalPropertiesField ++ "Field") = "additionalpropertiesfield" := by decide

/-- The field of the empty text is the placeholder, whatever is reserved. -/
theorem fieldName_empty (reserved : ReservedWords) :
    (fieldName reserved "").name = .ofText emptyFieldName := by
  have spelt : isAllCapitals (sanitize "") = false ∧ (camel (sanitize "")).isEmpty = true := by
    decide
  simp only [fieldName, spelt.1, spelt.2, Bool.false_eq_true, if_false, if_true]
  rfl

/-- A field that begins with a digit in small letters, behind its start. -/
theorem lower_digitFieldStart_append {name : String} (body : Chars.IsBody name.toList) :
    Text.lower (digitFieldStart ++ name) = "var" ++ Text.lower name := by
  have whole : Chars.IsBody (digitFieldStart ++ name).toList :=
    isBody_append (Chars.isBody_of_all rfl) body
  have small : Text.lower digitFieldStart = "var" := by decide
  rw [lower_append_camel String.toList_append whole, small]
  rfl

/-- A name that begins with a digit is not in capitals. -/
theorem isAllCapitals_of_startsWithDigit {name : String} (body : Chars.IsBody name.toList)
    (digit : startsWithDigit name = true) : isAllCapitals name = false := by
  rw [startsWithDigit] at digit
  rw [isAllCapitals]
  cases chars : name.toList with
  | nil => rfl
  | cons c rest =>
    rw [chars] at digit body
    have ascii := body.isAscii c List.mem_cons_self
    have first : c.isDigit = true := (Chars.isDigit_of_ascii ascii).symm.trans digit
    have other : (c.isUpper || c == '_') = false :=
      Chars.ascii_induction (P := fun c => c.isDigit = true → (c.isUpper || c == '_') = false)
        (by decide) ascii first
    rw [List.all_cons, other, Bool.false_and, Bool.false_and]

/-- A name behind the start of digits is none without that start. -/
theorem digitFieldStart_append_ne_of {other : String}
    (different : ¬ digitFieldStart.toList <+: other.toList) (name : String) :
    ¬ digitFieldStart ++ name = other := by
  intro same
  apply different
  rw [← same]
  exact prefix_toList_append digitFieldStart name

/-- The field for unmodelled properties does not have the start of a digit. -/
theorem digitFieldStart_append_ne (name : String) :
    ¬ digitFieldStart ++ name = additionalPropertiesField :=
  digitFieldStart_append_ne_of (by decide) name

/-- An escaped name is not the field for unmodelled properties. -/
theorem append_underscore_ne_additionalPropertiesField (name : String) :
    ¬ name ++ "_" = additionalPropertiesField := by
  intro same
  have ending : "_".toList <:+ additionalPropertiesField.toList := by
    rw [← same]
    exact suffix_toList_append name "_"
  exact absurd ending (by decide)

namespace ReservedWords.EscapesByUnderscore

variable {reserved : ReservedWords} (table : reserved.EscapesByUnderscore)

include table

/-- Whether a name is reserved does not depend on the case of its letters. -/
theorem isReserved_congr {first second : String} (firstBody : Chars.IsBody first.toList)
    (secondBody : Chars.IsBody second.toList) (same : Text.lower first = Text.lower second) :
    reserved.isReserved first = reserved.isReserved second := by
  have empty : first.isEmpty = second.isEmpty := by
    rw [← isEmpty_lower firstBody, same, isEmpty_lower secondBody]
  rw [Bool.eq_iff_iff, table.isReserved_iff, table.isReserved_iff, Ne, Ne, ← String.isEmpty_iff,
    ← String.isEmpty_iff, empty, same]

/-! ## Honoured words -/

/-- A body is corrected by its letters, whichever camel case of them is its name. -/
theorem corrects_of_needsCorrection {body camelized : String} (isBody : Chars.IsBody body.toList)
    (camelBody : Chars.IsBody camelized.toList) (lowered : Text.lower camelized = smallLetters body)
    (needs : needsCorrection reserved body camelized = true) :
    reserved.Corrects (smallLetters body) := by
  simp only [needsCorrection, Bool.or_eq_true] at needs
  rcases needs with (asWritten | reservedName) | (empty | digit)
  · exact .inr (.inr ⟨Text.lower body, ((table.isReserved_iff body).1 asWritten).2,
      withoutUnderscores_lower isBody⟩)
  · refine .inr (.inr ⟨Text.lower camelized, ((table.isReserved_iff _).1 reservedName).2, ?_⟩)
    rw [lowered]
    exact withoutUnderscores_of_isPart (isPart_smallLetters isBody)
  · rw [← lowered]
    exact .inl (String.isEmpty_iff.1 ((isEmpty_lower camelBody).trans empty))
  · rw [← lowered]
    exact .inr (.inl ((startsWithDigit_lower camelBody).trans digit))

/-- Where corrected models are free, all models are. -/
theorem unreserved_modelName
    (models : ∀ part, IsPart part → reserved.Corrects part → "model" ++ part ∉ reserved.words)
    (raw : String) : reserved.isReserved (camel (snakeModelName reserved raw).name) = false := by
  have body := isBody_sanitized raw
  rw [name_snakeModelName]
  split
  · rename_i needs
    refine table.unreserved_of_not_mem ?_
    rw [lower_correctedModelName body]
    exact models _ (isPart_smallLetters body) (table.corrects_of_needsCorrection body
      (isBody_camel (isBody_snake body)) (lower_camel_snake_body body) needs)
  · rename_i settled
    exact (needsCorrection_eq_false settled).1

/-- Where corrected operations are free, all operations are. -/
theorem unreserved_operationName
    (operations : ∀ part, IsPart part → reserved.Corrects part → "call" ++ part ∉ reserved.words)
    (raw : String) : reserved.isReserved (operationName reserved raw).name = false := by
  have body := isBody_sanitized raw
  rw [name_operationName]
  split
  · rename_i needs
    refine table.unreserved_of_not_mem ?_
    rw [lower_correctedOperationName body]
    exact operations _ (isPart_smallLetters body) (table.corrects_of_needsCorrection body
      (isBody_camel body) (lower_camel_body body) needs)
  · rename_i settled
    exact (needsCorrection_eq_false settled).1

/-- A finished name that was escaped is not reserved. -/
theorem unreserved_finishFieldName_escaped {stem : String} (body : Chars.IsBody stem.toList) :
    reserved.isReserved (finishFieldName (stem ++ "_")) = false := by
  rw [finishFieldName]
  split
  · rw [← String.append_assoc, if_neg (append_underscore_ne_additionalPropertiesField _)]
    exact table.unreserved_escaped (isBody_append (Chars.isBody_of_all rfl) body)
  · rw [if_neg (append_underscore_ne_additionalPropertiesField _)]
    exact table.unreserved_escaped body

/-- A finished name that was unreserved is so where the words spare corrections. -/
theorem unreserved_finishFieldName (spares : reserved.SparesCorrections) {name : String}
    (body : Chars.IsBody name.toList) (isPart : IsPart (Text.lower name)) (nonempty : name ≠ "")
    (unreserved : reserved.isReserved name = false) :
    reserved.isReserved (finishFieldName name) = false := by
  have absent : Text.lower name ∉ reserved.words := fun member =>
    Bool.eq_false_iff.1 unreserved ((table.isReserved_iff name).2 ⟨nonempty, member⟩)
  rw [finishFieldName]
  split
  · rename_i digit
    rw [if_neg (digitFieldStart_append_ne name)]
    refine table.unreserved_of_not_mem fun member => absent ?_
    rw [lower_digitFieldStart_append body] at member
    exact spares.fields _ isPart ((startsWithDigit_lower body).trans digit) member
  · split
    · rename_i taken
      refine table.unreserved_of_not_mem fun member => absent ?_
      rw [taken] at member ⊢
      rw [lower_movedField] at member
      rw [lower_additionalPropertiesField]
      exact spares.moved member
    · exact unreserved

/-- Where the words spare corrections, all fields are free. -/
theorem unreserved_fieldName (spares : reserved.SparesCorrections) (raw : String) :
    ∃ name, (fieldName reserved raw).name = .ofText name ∧ reserved.isReserved name = false := by
  have body := isBody_sanitized raw
  have camelBody := isBody_camel body
  simp only [fieldName]
  split
  · refine ⟨_, ReservedWords.name_avoid table.noReplacements _ _, ?_⟩
    rw [table.suffix]
    split
    · exact table.unreserved_escaped camelBody
    · rename_i unreserved
      exact Bool.eq_false_iff.2 unreserved
  · split
    · refine ⟨emptyFieldName, rfl, table.unreserved_of_not_mem ?_⟩
      rw [lower_emptyFieldName]
      exact spares.placeholder
    · rename_i nonempty
      refine ⟨_, by rw [Named.map, ReservedWords.name_avoid table.noReplacements,
        Label.mapText_ofText], ?_⟩
      rw [table.suffix]
      split
      · exact table.unreserved_finishFieldName_escaped (isBody_camel camelBody)
      · rename_i unreserved
        refine table.unreserved_finishFieldName spares camelBody ?_
          (fun empty => nonempty (String.isEmpty_iff.2 empty)) (Bool.eq_false_iff.2 unreserved)
        rw [lower_camel_body body]
        exact isPart_smallLetters body

/-! ## Words that a correction gives -/

/-- What is corrected is the letters of some body that the rules correct, whichever camel case of
the letters is its name. -/
theorem exists_of_corrects {part : String} (isPart : IsPart part)
    (corrects : reserved.Corrects part) :
    ∃ raw : String, Chars.IsBody raw.toList ∧ smallLetters raw = part ∧
      ∀ camelized : String, Chars.IsBody camelized.toList → Text.lower camelized = part →
        needsCorrection reserved raw camelized = true := by
  simp only [needsCorrection, Bool.or_eq_true]
  rcases corrects with empty | digit | ⟨word, member, rfl⟩
  · refine ⟨part, isPart.body, isPart.small, fun camelized body lowered => .inr (.inl ?_)⟩
    rw [← isEmpty_lower body, lowered]
    exact String.isEmpty_iff.2 empty
  · refine ⟨part, isPart.body, isPart.small, fun camelized body lowered => .inr (.inr ?_)⟩
    rw [← startsWithDigit_lower body, lowered]
    exact digit
  · obtain ⟨wordBody, small⟩ := small_of_isPart_withoutUnderscores isPart
    refine ⟨word, wordBody, ?_, fun camelized body lowered => ?_⟩
    · rw [← withoutUnderscores_lower wordBody, small]
    · by_cases empty : word = ""
      · refine .inr (.inl ?_)
        rw [← isEmpty_lower body, lowered, empty]
        rfl
      · exact .inl (.inl ((table.isReserved_iff word).2 ⟨empty, small.symm ▸ member⟩))

/-- Where all models are free, so are the corrected ones. -/
theorem models_of_unreserved
    (free : ∀ raw, reserved.isReserved (camel (snakeModelName reserved raw).name) = false)
    (part : String) (isPart : IsPart part) (corrects : reserved.Corrects part) :
    "model" ++ part ∉ reserved.words := by
  intro member
  obtain ⟨raw, body, rfl, needs⟩ := table.exists_of_corrects isPart corrects
  have corrected : (snakeModelName reserved raw).name = snake (modelStart ++ raw) := by
    rw [name_snakeModelName, snakeBody, sanitize_of_isBody body]
    exact if_pos (needs _ (isBody_camel (isBody_snake body)) (lower_camel_snake_body body))
  have lowered := lower_correctedModelName body
  rw [← corrected] at lowered
  exact Bool.eq_false_iff.1 (free raw) (table.isReserved_of_lower lowered (by simp) member)

/-- Where all operations are free, so are the corrected ones. -/
theorem operations_of_unreserved
    (free : ∀ raw, reserved.isReserved (operationName reserved raw).name = false)
    (part : String) (isPart : IsPart part) (corrects : reserved.Corrects part) :
    "call" ++ part ∉ reserved.words := by
  intro member
  obtain ⟨raw, body, rfl, needs⟩ := table.exists_of_corrects isPart corrects
  have corrected : (operationName reserved raw).name = camel (operationStart ++ raw) := by
    rw [name_operationName, sanitize_of_isBody body]
    exact if_pos (needs _ (isBody_camel body) (lower_camel_body body))
  have lowered := lower_correctedOperationName body
  rw [← corrected] at lowered
  exact Bool.eq_false_iff.1 (free raw) (table.isReserved_of_lower lowered (by simp) member)

/-- Where all fields are free, so are the corrected ones. -/
theorem fields_of_unreserved
    (free : ∀ raw name, (fieldName reserved raw).name = .ofText name →
      reserved.isReserved name = false)
    (part : String) (isPart : IsPart part) (digit : startsWithDigit part = true)
    (member : "var" ++ part ∈ reserved.words) : part ∈ reserved.words := by
  have body := isPart.body
  have lowered : Text.lower (camel part) = part := by
    rw [lower_camel_body body, isPart.small]
  have camelBody := isBody_camel body
  have camelDigit := startsWithDigit_camel body digit
  have nonempty : (camel part).isEmpty = false := by
    refine Bool.eq_false_iff.2 fun empty => ?_
    rw [String.isEmpty_iff.1 empty] at camelDigit
    exact Bool.noConfusion camelDigit
  refine Decidable.byContradiction fun absent => ?_
  have unreserved : reserved.isReserved (camel part) = false :=
    table.unreserved_of_not_mem (lowered.symm ▸ absent)
  have named : (fieldName reserved part).name = .ofText (digitFieldStart ++ camel part) := by
    simp only [fieldName, sanitize_of_isBody body, isAllCapitals_of_startsWithDigit body digit,
      nonempty, Bool.false_eq_true, if_false, Named.map,
      ReservedWords.name_avoid table.noReplacements, unreserved, Label.mapText_ofText]
    rw [finishFieldName, if_pos camelDigit, if_neg (digitFieldStart_append_ne _)]
  have small : Text.lower (digitFieldStart ++ camel part) = "var" ++ part := by
    rw [lower_digitFieldStart_append camelBody, lowered]
  exact Bool.eq_false_iff.1 (free part _ named) (table.isReserved_of_lower small (by simp) member)

/-- Where all fields are free, so is the one that was moved. -/
theorem moved_of_unreserved
    (free : ∀ raw name, (fieldName reserved raw).name = .ofText name →
      reserved.isReserved name = false)
    (member : "additionalpropertiesfield" ∈ reserved.words) :
    "additionalproperties" ∈ reserved.words := by
  refine Decidable.byContradiction fun absent => ?_
  have unreserved : reserved.isReserved additionalPropertiesField = false :=
    table.unreserved_of_not_mem (lower_additionalPropertiesField.symm ▸ absent)
  have spelt : isAllCapitals (sanitize additionalPropertiesField) = false ∧
      camel (sanitize additionalPropertiesField) = additionalPropertiesField := by decide
  have named : (fieldName reserved additionalPropertiesField).name =
      .ofText (additionalPropertiesField ++ "Field") := by
    simp only [fieldName, spelt.1, spelt.2, Bool.false_eq_true, if_false, Named.map,
      ReservedWords.name_avoid table.noReplacements, unreserved, Label.mapText_ofText]
    rfl
  exact Bool.eq_false_iff.1 (free _ _ named)
    (table.isReserved_of_lower lower_movedField (by decide) member)

end ReservedWords.EscapesByUnderscore

/-! ## Settings without affixes -/

/-- A naming without settings reserves the words of Go alone. -/
theorem Naming.ofSettings_default :
    Naming.ofSettings {} = .ok ⟨{}, ReservedWords.plain⟩ :=
  ofSettings_of_reserved (ReservedWords.ofSettings_eq_plain Settings.overridesNothing_default rfl)

/-- A name that is given as an unreserved one is unreserved. -/
theorem unreserved_of_given {reserved : ReservedWords} {name : String}
    (given : ∃ other, (.ok (.ofText name) : Except InvalidMapping Label) = .ok (.ofText other) ∧
      reserved.isReserved other = false) : reserved.isReserved name = false := by
  obtain ⟨other, same, unreserved⟩ := given
  cases same
  exact unreserved

/-- Under settings without overrides and affixes every field, model and operation has a name that is
no reserved word, whatever the text, exactly where no accepted word is one that a correction gives:
a word of the settings can stand in the way of the placeholder of fields, of a name behind `Var`,
`Model` or `Call`, or of a name before `Field`, and of no other name. -/
theorem honours_reserved_iff {settings : Settings} (nothing : settings.OverridesNothing)
    (noStart : settings.modelNamePrefix.content = "")
    (noEnding : settings.modelNameSuffix.content = "") {naming : Naming}
    (accepted : Naming.ofSettings settings = .ok naming) :
    (∀ raw : String,
      (∃ name, (naming.fieldName raw).result = .ok (.ofText name) ∧
        naming.reserved.isReserved name = false) ∧
      (∃ name, (naming.modelName raw).result = .ok (.ofText name) ∧
        naming.reserved.isReserved name = false) ∧
      naming.reserved.isReserved (naming.operationName raw).name = false) ↔
      naming.reserved.SparesCorrections := by
  obtain ⟨reserved, built, rfl⟩ := Naming.exists_of_ofSettings accepted
  have table := ReservedWords.escapesByUnderscore_of_ofSettings nothing built
  have unmapped : (⟨settings, reserved⟩ : Naming).settings.OverridesNothing := nothing
  have fields := Naming.fieldName_result unmapped
  have models (raw : String) : (Naming.modelName ⟨settings, reserved⟩ raw).result =
      .ok (.ofText (camel (snakeModelName reserved raw).name)) := by
    rw [Naming.modelName_result nothing, Naming.computedModelName,
      applyAffixes_of_empty noStart noEnding]
  constructor
  · intro free
    have freeField (raw name : String) (named : (fieldName reserved raw).name = .ofText name) :
        reserved.isReserved name = false := by
      refine unreserved_of_given ?_
      rw [← named, ← fields]
      exact (free raw).1
    have freeModel (raw : String) :
        reserved.isReserved (camel (snakeModelName reserved raw).name) = false := by
      refine unreserved_of_given ?_
      rw [← models]
      exact (free raw).2.1
    refine ⟨fun member => ?_, table.moved_of_unreserved freeField,
      table.fields_of_unreserved freeField, table.models_of_unreserved freeModel,
      table.operations_of_unreserved fun raw => (free raw).2.2⟩
    exact Bool.eq_false_iff.1 (freeField "" _ (fieldName_empty reserved))
      (table.isReserved_of_lower lower_emptyFieldName (by decide) member)
  · intro spares raw
    obtain ⟨name, named, unreserved⟩ := table.unreserved_fieldName spares raw
    exact ⟨⟨name, by rw [fields, named], unreserved⟩,
      ⟨_, models raw, table.unreserved_modelName spares.models raw⟩,
      table.unreserved_operationName spares.operations raw⟩

/-- The words `client` and `pet_store` stand in the way of no name. -/
theorem further_words_honoured :
    ∃ naming, Naming.ofSettings { extraReservedWords := ["client", "pet_store"] } = .ok naming ∧
      ∀ raw : String,
        (∃ name, (naming.fieldName raw).result = .ok (.ofText name) ∧
          naming.reserved.isReserved name = false) ∧
        (∃ name, (naming.modelName raw).result = .ok (.ofText name) ∧
          naming.reserved.isReserved name = false) ∧
        naming.reserved.isReserved (naming.operationName raw).name = false := by
  have nothing : Settings.OverridesNothing { extraReservedWords := ["client", "pet_store"] } :=
    ⟨rfl, rfl, rfl, rfl, rfl⟩
  have built := ReservedWords.ofSettings_of_small nothing ["client", "pet_store"] rfl
    (by decide) (by decide) (by decide)
  have accepted := Naming.ofSettings_of_reserved built
  refine ⟨_, accepted, (honours_reserved_iff nothing rfl rfl accepted).2 ?_⟩
  exact ReservedWords.sparesCorrections_of_starts (by decide) (by decide) (by decide)

/-- The word `empty` is not honoured: a text without letters is named by the placeholder, which that
word reserves. -/
theorem placeholder_not_honoured :
    ∃ naming, Naming.ofSettings { extraReservedWords := ["empty"] } = .ok naming ∧
      (naming.fieldName "").result = .ok (.ofText "Empty") ∧
      naming.reserved.isReserved "Empty" = true := by
  have nothing : Settings.OverridesNothing { extraReservedWords := ["empty"] } :=
    ⟨rfl, rfl, rfl, rfl, rfl⟩
  have built := ReservedWords.ofSettings_of_small nothing ["empty"] rfl
    (by decide) (by decide) (by decide)
  refine ⟨_, Naming.ofSettings_of_reserved built, ?_, ?_⟩
  · exact (Naming.fieldName_result nothing "").trans (congrArg Except.ok (fieldName_empty _))
  · exact (ReservedWords.escapesByUnderscore_of_ofSettings nothing built).isReserved_of_lower
      lower_emptyFieldName (by decide) (by decide)

end GoBindings
