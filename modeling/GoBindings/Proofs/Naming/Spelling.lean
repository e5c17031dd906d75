import GoBindings.Proofs.Naming.Reservation

/-!
# Spelling of names

Any text at all becomes a legal identifier. Which characters a name may have is settled when the
text is sanitized; how it begins is settled by the corrections, since camel casing can bring a digit
to the front that stood behind underscores. The classes of names are those of Go's own letters and
digits that the rules use: each is given by what may stand first and what may follow.
-/

namespace GoBindings

namespace Chars

/-! ## Words -/

/-- A text whose first character is of one class and whose further characters are of another. -/
def IsWord (first further : Char → Bool) (s : List Char) : Prop :=
  s.head?.any first = true ∧ ∀ c ∈ s.tail, further c = true

/-- The characters are tested one by one. -/
theorem isWord_iff (first further : Char → Bool) (s : List Char) :
    IsWord first further s ↔ (s.head?.any first && s.tail.all further) = true := by
  rw [IsWord, Bool.and_eq_true, List.all_eq_true]

instance (first further : Char → Bool) (s : List Char) : Decidable (IsWord first further s) :=
  decidable_of_iff _ (isWord_iff first further s).symm

/-- A word is not empty. -/
theorem IsWord.eq_cons {first further : Char → Bool} {s : List Char}
    (word : IsWord first further s) :
    ∃ c rest, s = c :: rest ∧ first c = true ∧ ∀ d ∈ rest, further d = true := by
  cases s with
  | nil => exact Bool.noConfusion word.1
  | cons c rest => exact ⟨c, rest, rfl, word⟩

/-- A text is a word of wider classes too. -/
theorem IsWord.mono {first further first' further' : Char → Bool} {s : List Char}
    (word : IsWord first further s) (starts : ∀ c, first c = true → first' c = true)
    (continues : ∀ c, further c = true → further' c = true) : IsWord first' further' s := by
  obtain ⟨c, rest, rfl, head, tail⟩ := word.eq_cons
  exact ⟨starts c head, fun d member => continues d (tail d member)⟩

/-- A word of classes of body characters is a body. -/
theorem IsWord.isBody {first further : Char → Bool} {s : List Char} (word : IsWord first further s)
    (starts : ∀ c, first c = true → isBodyChar c = true)
    (continues : ∀ c, further c = true → isBodyChar c = true) : IsBody s := by
  obtain ⟨c, rest, rfl, head, tail⟩ := word.eq_cons
  exact List.forall_mem_cons.2 ⟨starts c head, fun d member => continues d (tail d member)⟩

/-- A text of one class that begins with a capital. -/
theorem isWord_of_startsCapital {further : Char → Bool} {s : List Char}
    (capital : startsCapital s = true) (all : ∀ c ∈ s, further c = true) :
    IsWord Char.isUpper further s := by
  cases s with
  | nil => exact Bool.noConfusion capital
  | cons c rest => exact ⟨capital, fun d member => all d (List.mem_cons_of_mem c member)⟩

/-- A text that begins with a capital still does with more behind it. -/
theorem startsCapital_append {s : List Char} (capital : startsCapital s = true)
    (more : List Char) : startsCapital (s ++ more) = true := by
  cases s with
  | nil => exact Bool.noConfusion capital
  | cons c rest => exact capital

/-! ## Letters and digits -/

/-- The capital form of an ASCII letter or digit is a capital or a digit. -/
theorem toUpper_of_isAlphanum {c : Char} (ascii : c.toNat < 0x80) (alphanum : c.isAlphanum = true) :
    (c.toUpper.isUpper || c.toUpper.isDigit) = true :=
  ascii_induction (P := fun c => c.isAlphanum = true →
    (c.toUpper.isUpper || c.toUpper.isDigit) = true) (by decide) ascii alphanum

/-- A capital is its own capital form. -/
theorem toUpper_of_isUpper {c : Char} (ascii : c.toNat < 0x80) (capital : c.isUpper = true) :
    c.toUpper = c :=
  ascii_induction (P := fun c => c.isUpper = true → c.toUpper = c) (by decide) ascii capital

/-- The small form of a capital is a small letter. -/
theorem isLower_toLower {c : Char} (ascii : c.toNat < 0x80) (capital : c.isUpper = true) :
    c.toLower.isLower = true :=
  ascii_induction (P := fun c => c.isUpper = true → c.toLower.isLower = true) (by decide) ascii
    capital

/-- The capital form of the small form of a capital is a capital. -/
theorem isUpper_toUpper_toLower {c : Char} (ascii : c.toNat < 0x80) (capital : c.isUpper = true) :
    c.toLower.toUpper.isUpper = true :=
  ascii_induction (P := fun c => c.isUpper = true → c.toLower.toUpper.isUpper = true) (by decide)
    ascii capital

/-- Of a class of digits that begins with those of ASCII only these are ASCII. -/
theorem inRanges_of_ascii {further : List Unicode.Range}
    (beyond : ∀ range ∈ further, 0x80 ≤ range.1) {c : Char} (ascii : c.toNat < 0x80) :
    Unicode.inRanges ((0x30, 0x39) :: further) c = c.isDigit := by
  rw [Bool.eq_iff_iff, Unicode.inRanges_iff, Char.isDigit_iff_toNat]
  constructor
  · rintro ⟨range, member, low, high⟩
    rcases List.mem_cons.1 member with rfl | later
    · exact ⟨low, high⟩
    · have far := beyond range later
      omega
  · rintro ⟨low, high⟩
    exact ⟨(0x30, 0x39), List.mem_cons_self, low, high⟩

/-- Of all digits only those of ASCII are ASCII. -/
theorem isDigit_of_ascii {c : Char} (ascii : c.toNat < 0x80) : Unicode.isDigit c = c.isDigit := by
  have beyond : ∀ range ∈ Unicode.digits.tail, 0x80 ≤ range.1 := by decide
  exact inRanges_of_ascii beyond ascii

/-- Of all decimal digits only those of ASCII are ASCII. -/
theorem isDecimalDigit_of_ascii {c : Char} (ascii : c.toNat < 0x80) :
    Unicode.isDecimalDigit c = c.isDigit := by
  have beyond : ∀ range ∈ Unicode.decimalDigits.tail, 0x80 ≤ range.1 := by decide
  exact inRanges_of_ascii beyond ascii

/-- A capital is no digit. -/
theorem isDigit_of_isUpper {c : Char} (ascii : c.toNat < 0x80) (capital : c.isUpper = true) :
    Unicode.isDigit c = false := by
  rw [isDigit_of_ascii ascii]
  exact ascii_induction (P := fun c => c.isUpper = true → c.isDigit = false) (by decide) ascii
    capital

/-- The capital form of a body character is a capital, a digit or an underscore. -/
theorem toUpper_of_isBodyChar {c : Char} (body : isBodyChar c = true) :
    (c.toUpper.isUpper || c.toUpper.isDigit || c.toUpper == '_') = true :=
  ascii_induction (P := fun c => isBodyChar c = true →
    (c.toUpper.isUpper || c.toUpper.isDigit || c.toUpper == '_') = true) (by decide)
    (ascii_of_isBodyChar body) body

/-- A letter is a capital or a small letter. -/
theorem isAlpha_eq (c : Char) : c.isAlpha = (c.isUpper || c.isLower) := rfl

/-- A capital is a body character other than the underscore. -/
theorem isBodyChar_of_isUpper {c : Char} (capital : c.isUpper = true) :
    isBodyChar c = true ∧ c ≠ '_' := by
  refine ⟨by simp [isBodyChar, Char.isAlphanum, isAlpha_eq, capital], ?_⟩
  rintro rfl
  exact Bool.noConfusion capital

/-- A body character other than the underscore is a letter or digit. -/
theorem isAlphanum_of_isBodyChar {c : Char} (body : isBodyChar c = true) (other : c ≠ '_') :
    c.isAlphanum = true := by
  simpa [isBodyChar, other] using body

/-- A text that begins with a capital does not begin with a digit. -/
theorem startsWithDigit_of_startsCapital {s : List Char} (body : IsBody s)
    (capital : startsCapital s = true) : startsWithDigit s = false := by
  cases s with
  | nil => rfl
  | cons c rest =>
    exact isDigit_of_isUpper (ascii_of_isBodyChar (body c List.mem_cons_self)) capital

/-! ## How camel case begins -/

/-- Camel case does not see an underscore at the front. -/
theorem camel_underscore_cons (s : List Char) : camel ('_' :: s) = camel s :=
  camel_append_underscore [] s

/-- Camel case does not see an underscore at the end. -/
theorem camel_append_single (s : List Char) : camel (s ++ ['_']) = camel s := by
  rw [camel_append_underscore]
  exact List.append_nil _

/-- Camel case does not see the underscores at the front. -/
theorem camel_dropWhile_underscore (s : List Char) :
    camel (s.dropWhile (· == '_')) = camel s := by
  induction s with
  | nil => rfl
  | cons c rest ih =>
    by_cases separator : c = '_'
    · rw [separator, List.dropWhile_cons_of_pos rfl, ih, camel_underscore_cons]
    · rw [List.dropWhile_cons_of_neg (by simpa using separator)]

/-- Any other first character is capitalised. -/
theorem camel_cons {c : Char} (ascii : c.toNat < 0x80) (other : c ≠ '_') (rest : List Char) :
    ∃ tail, camel (c :: rest) = c.toUpper :: tail := by
  cases parts : segments '_' rest with
  | nil => exact absurd parts (segments_ne_nil '_' rest)
  | cons head more =>
    refine ⟨head ++ more.flatMap capitalize, ?_⟩
    rw [camel, segments, if_neg other, parts]
    simp only [List.flatMap_cons, capitalize_of_ascii head ascii, List.cons_append]

/-- The camel case of a body consists of letters and digits. -/
theorem isAlphanum_of_mem_camel {s : List Char} (body : IsBody s) {c : Char}
    (member : c ∈ camel s) : c.isAlphanum = true := by
  refine isAlphanum_of_isBodyChar (body.camel c member) ?_
  obtain ⟨part, there, inner⟩ := List.mem_flatMap.1 member
  cases part with
  | nil => exact absurd inner List.not_mem_nil
  | cons head rest =>
    obtain ⟨stands, other⟩ := of_mem_segments there List.mem_cons_self
    have ascii := body.isAscii head stands
    have alphanum := isAlphanum_of_isBodyChar (body head stands) other
    rw [capitalize_of_ascii rest ascii] at inner
    rcases List.mem_cons.1 inner with rfl | later
    · intro separator
      have spelt := toUpper_of_isAlphanum ascii alphanum
      rw [separator] at spelt
      exact Bool.noConfusion spelt
    · exact (of_mem_segments there (List.mem_cons_of_mem head later)).2

/-- Camel case that begins with neither nothing nor a digit begins with a capital. -/
theorem startsCapital_camel {s : List Char} (body : IsBody s) (nonempty : camel s ≠ [])
    (letter : startsWithDigit (camel s) = false) : startsCapital (camel s) = true := by
  induction s with
  | nil => exact absurd rfl nonempty
  | cons c rest ih =>
    have first := body c List.mem_cons_self
    by_cases separator : c = '_'
    · rw [separator, camel_underscore_cons] at nonempty letter ⊢
      exact ih (fun d member => body d (List.mem_cons_of_mem c member)) nonempty letter
    · have ascii := ascii_of_isBodyChar first
      obtain ⟨tail, chars⟩ := camel_cons ascii separator rest
      rw [chars] at letter ⊢
      have either := toUpper_of_isAlphanum ascii (isAlphanum_of_isBodyChar first separator)
      have digit : c.toUpper.isDigit = false :=
        (isDigit_of_ascii (ascii_of_isBodyChar (isBodyChar_toUpper first))).symm.trans letter
      rwa [digit, Bool.or_false] at either

/-- A name that begins with a capital does so in camel case. -/
theorem startsCapital_camel_of_startsCapital {s : List Char} (body : IsBody s)
    (capital : startsCapital s = true) : startsCapital (camel s) = true := by
  cases s with
  | nil => exact Bool.noConfusion capital
  | cons c rest =>
    have ascii := body.isAscii c List.mem_cons_self
    obtain ⟨tail, chars⟩ := camel_cons ascii (isBodyChar_of_isUpper capital).2 rest
    rw [chars, toUpper_of_isUpper ascii capital]
    exact capital

/-- A name whose first character beside underscores is a capital begins with one in camel case. -/
theorem startsCapital_camel_of_dropWhile {s : List Char} (body : IsBody s)
    (capital : startsCapital (s.dropWhile (· == '_')) = true) :
    startsCapital (camel s) = true := by
  rw [← camel_dropWhile_underscore]
  refine startsCapital_camel_of_startsCapital (fun c member => ?_) capital
  exact body c (List.dropWhile_subset _ member)

/-- A name that begins with a digit does so in camel case. -/
theorem startsWithDigit_camel {s : List Char} (body : IsBody s)
    (digit : startsWithDigit s = true) : startsWithDigit (camel s) = true := by
  cases s with
  | nil => exact Bool.noConfusion digit
  | cons c rest =>
    have ascii := body.isAscii c List.mem_cons_self
    have first : c.isDigit = true := (isDigit_of_ascii ascii).symm.trans digit
    have settled : c ≠ '_' ∧ c.toUpper = c :=
      ascii_induction (P := fun c => c.isDigit = true → c ≠ '_' ∧ c.toUpper = c) (by decide) ascii
        first
    obtain ⟨tail, chars⟩ := camel_cons ascii settled.1 rest
    rw [chars, settled.2]
    exact digit

/-- A text that begins with a capital or a digit. -/
def StartsName (s : List Char) : Prop := startsCapital s = true ∨ startsWithDigit s = true

/-- Camel case begins with a capital or a digit. -/
theorem startsName_camel {s : List Char} (body : IsBody s) (nonempty : camel s ≠ []) :
    StartsName (camel s) := by
  by_cases digit : startsWithDigit (camel s) = true
  · exact .inr digit
  · exact .inl (startsCapital_camel body nonempty (Bool.eq_false_iff.2 digit))

/-- An escaped name begins as the name does. -/
theorem StartsName.escaped {s : List Char} (starts : StartsName s) (body : IsBody s)
    (suffix : List Char) : StartsName (Chars.camel s ++ suffix) := by
  rcases starts with capital | digit
  · exact .inl (startsCapital_append (startsCapital_camel_of_startsCapital body capital) suffix)
  · have camelDigit := startsWithDigit_camel body digit
    cases chars : Chars.camel s with
    | nil =>
      rw [chars] at camelDigit
      exact Bool.noConfusion camelDigit
    | cons c rest =>
      rw [chars] at camelDigit
      exact .inr camelDigit

/-- A text in capitals and underscores that holds a capital begins with one beside underscores. -/
theorem startsCapital_dropWhile {s : List Char}
    (capitals : s.all (fun c => c.isUpper || c == '_') = true) (some : s.any Char.isUpper = true) :
    startsCapital (s.dropWhile (· == '_')) = true := by
  induction s with
  | nil => exact some
  | cons c rest ih =>
    rw [List.all_cons, Bool.and_eq_true] at capitals
    by_cases separator : c = '_'
    · rw [separator, List.dropWhile_cons_of_pos rfl]
      rw [separator, List.any_cons] at some
      exact ih capitals.2 some
    · rw [List.dropWhile_cons_of_neg (by simpa using separator)]
      exact (Bool.or_eq_true_iff.1 capitals.1).resolve_right (by simpa using separator)

/-! ## How snake case begins -/

/-- Breaking keeps the first character. -/
theorem breakWhere_cons (test : Char → List Char → Bool) (c : Char) (rest : List Char) :
    ∃ tail, breakWhere test (c :: rest) = c :: tail := by
  rw [breakWhere]
  split
  · exact ⟨_, rfl⟩
  · exact ⟨_, rfl⟩

/-- A body character is not one that becomes an underscore. -/
theorem toUnderscore_of_isBodyChar {c : Char} (body : isBodyChar c = true) :
    toUnderscore c = c := by
  rw [toUnderscore, if_neg]
  intro separator
  rcases Bool.or_eq_true_iff.1 separator with hyphen | blank
  · rw [of_decide_eq_true hyphen] at body
    exact Bool.noConfusion body
  · rw [of_decide_eq_true blank] at body
    exact Bool.noConfusion body

/-- Snake casing lowers the first character of a body and leaves it first. -/
theorem snake_cons {c : Char} {rest : List Char} (body : IsBody (c :: rest)) :
    ∃ tail, snake (c :: rest) = c.toLower :: tail := by
  obtain ⟨acronyms, first⟩ := breakWhere_cons endsAcronym c rest
  obtain ⟨words, second⟩ := breakWhere_cons endsWord c acronyms
  have broken : brokenWords (c :: rest) = c :: words.map toUnderscore := by
    rw [brokenWords, breakAcronyms_eq, first, breakWords_eq, second, List.map_cons,
      toUnderscore_of_isBodyChar (body c List.mem_cons_self)]
  refine ⟨(words.map toUnderscore).map Char.toLower, ?_⟩
  change lower (brokenWords (c :: rest)) = _
  rw [lower_of_ascii _ body.isAscii.brokenWords, broken, List.map_cons]

/-- A body that begins with a digit does so in snake case. -/
theorem startsWithDigit_snake {s : List Char} (body : IsBody s)
    (digit : startsWithDigit s = true) : startsWithDigit (Chars.snake s) = true := by
  cases s with
  | nil => exact Bool.noConfusion digit
  | cons c rest =>
    have ascii := body.isAscii c List.mem_cons_self
    have first : c.isDigit = true := (isDigit_of_ascii ascii).symm.trans digit
    have kept : c.toLower = c :=
      ascii_induction (P := fun c => c.isDigit = true → c.toLower = c) (by decide) ascii first
    obtain ⟨tail, chars⟩ := snake_cons body
    rw [chars, kept]
    exact digit

end Chars

/-! ## Classes of names -/

/-- A name as fields have it, `[A-Z_][A-Za-z0-9_]*`. -/
def IsFieldName (name : String) : Prop :=
  Chars.IsWord (fun c => c.isUpper || c == '_') Chars.isBodyChar name.toList

/-- A name as parameters have it, `[a-z][A-Za-z0-9]*_?`. -/
def IsParameterName (name : String) : Prop :=
  ∃ stem : String, Chars.IsWord Char.isLower Char.isAlphanum stem.toList ∧
    (name = stem ∨ name = stem ++ "_")

/-- A name as types and methods have it, `[A-Z][A-Za-z0-9]*`. -/
def IsTypeName (name : String) : Prop :=
  Chars.IsWord Char.isUpper Char.isAlphanum name.toList

/-- A name as inline enumerations have it, `[A-Z][A-Z0-9_]*`. -/
def IsEnumTypeName (name : String) : Prop :=
  Chars.IsWord Char.isUpper (fun c => c.isUpper || c.isDigit || c == '_') name.toList

/-- A legal identifier of Go, of ASCII letters. -/
structure IsIdentifier (name : String) : Prop where
  /-- A letter or an underscore comes first, then letters, digits and underscores. -/
  word : Chars.IsWord (fun c => c.isAlpha || c == '_') Chars.isBodyChar name.toList
  /-- Keywords are no identifiers. -/
  notKeyword : name ∉ GoWords.keywords

/-- A free name is no keyword. -/
theorem not_mem_keywords_of_isFree {name : String} (free : IsFree name) :
    name ∉ GoWords.keywords := by
  intro keyword
  have reserved : name ∈ GoWords.reserved := by
    rw [GoWords.reserved]
    exact List.mem_append_left _ (List.mem_append_left _ keyword)
  exact free ((lower_of_reserved reserved).symm ▸ reserved)

/-- A letter may begin an identifier. -/
theorem starts_of_isUpper {c : Char} (capital : c.isUpper = true) :
    (c.isAlpha || c == '_') = true := by
  simp [Chars.isAlpha_eq, capital]

/-- A free field name is an identifier. -/
theorem IsFieldName.isIdentifier {name : String} (field : IsFieldName name) (free : IsFree name) :
    IsIdentifier name := by
  refine ⟨field.mono (fun c first => ?_) fun _ further => further, not_mem_keywords_of_isFree free⟩
  rcases Bool.or_eq_true_iff.1 first with capital | separator
  · exact starts_of_isUpper capital
  · exact Bool.or_eq_true_iff.2 (.inr separator)

/-- A free type name is an identifier. -/
theorem IsTypeName.isIdentifier {name : String} (type : IsTypeName name) (free : IsFree name) :
    IsIdentifier name :=
  ⟨type.mono (fun _ => starts_of_isUpper) fun _ further => Bool.or_eq_true_iff.2 (.inl further),
    not_mem_keywords_of_isFree free⟩

/-- A type name is a body. -/
theorem IsTypeName.isBody {name : String} (type : IsTypeName name) : Chars.IsBody name.toList :=
  Chars.IsWord.isBody type (fun _ capital => (Chars.isBodyChar_of_isUpper capital).1)
    fun _ further => Bool.or_eq_true_iff.2 (.inl further)

/-- A field name is a body. -/
theorem IsFieldName.isBody {name : String} (field : IsFieldName name) :
    Chars.IsBody name.toList := by
  refine Chars.IsWord.isBody field (fun c first => ?_) fun _ further => further
  rcases Bool.or_eq_true_iff.1 first with capital | separator
  · exact (Chars.isBodyChar_of_isUpper capital).1
  · exact Bool.or_eq_true_iff.2 (.inr separator)

/-- An identifier is a body. -/
theorem IsIdentifier.isBody {name : String} (identifier : IsIdentifier name) :
    Chars.IsBody name.toList := by
  refine identifier.word.isBody (fun c first => ?_) fun _ further => further
  rcases Bool.or_eq_true_iff.1 first with letter | separator
  · simp [Chars.isBodyChar, Char.isAlphanum, letter]
  · exact Bool.or_eq_true_iff.2 (.inr separator)

/-- A type name has no underscore. -/
theorem IsTypeName.underscore_not_mem {name : String} (type : IsTypeName name) :
    '_' ∉ name.toList := by
  obtain ⟨c, rest, chars, capital, further⟩ := type.eq_cons
  rw [chars, List.mem_cons, not_or]
  exact ⟨(Chars.isBodyChar_of_isUpper capital).2.symm,
    fun member => absurd (further _ member) (by decide)⟩

/-- A free enumeration name is an identifier. -/
theorem IsEnumTypeName.isIdentifier {name : String} (type : IsEnumTypeName name)
    (free : IsFree name) : IsIdentifier name := by
  refine ⟨type.mono (fun _ => starts_of_isUpper) fun c further => ?_,
    not_mem_keywords_of_isFree free⟩
  simp only [Bool.or_eq_true] at further
  rcases further with (capital | digit) | separator
  · exact (Chars.isBodyChar_of_isUpper capital).1
  · simp [Chars.isBodyChar, Char.isAlphanum, digit]
  · exact Bool.or_eq_true_iff.2 (.inr separator)

/-- A free parameter name is an identifier. -/
theorem IsParameterName.isIdentifier {name : String} (parameter : IsParameterName name)
    (free : IsFree name) : IsIdentifier name := by
  refine ⟨?_, not_mem_keywords_of_isFree free⟩
  obtain ⟨stem, word, named⟩ := parameter
  have whole : Chars.IsWord (fun c => c.isAlpha || c == '_') Chars.isBodyChar stem.toList :=
    word.mono (fun c small => by simp [Chars.isAlpha_eq, small])
      fun c further => Bool.or_eq_true_iff.2 (.inl further)
  rcases named with rfl | rfl
  · exact whole
  · obtain ⟨c, rest, chars, first, further⟩ := whole.eq_cons
    rw [String.toList_append, chars]
    refine ⟨first, fun d member => ?_⟩
    rcases List.mem_append.1 member with early | late
    · exact further d early
    · rw [List.mem_singleton.1 late]
      rfl

/-! ## Fields and parameters -/

open ReservedWords (plain)

/-- A body that begins with a capital once the underscores before it are dropped. -/
structure LeadsWithCapital (name : String) : Prop where
  /-- All characters are letters, digits and underscores. -/
  body : Chars.IsBody name.toList
  /-- The first of them beside underscores is a capital. -/
  capital : Chars.startsCapital (name.toList.dropWhile (· == '_')) = true

namespace LeadsWithCapital

/-- A body that begins with a capital leads with it. -/
theorem of_startsCapital {name : String} (body : Chars.IsBody name.toList)
    (capital : Chars.startsCapital name.toList = true) : LeadsWithCapital name := by
  refine ⟨body, ?_⟩
  cases chars : name.toList with
  | nil =>
    rw [chars] at capital
    exact capital
  | cons c rest =>
    rw [chars] at capital
    have other := (Chars.isBodyChar_of_isUpper capital).2
    rw [List.dropWhile_cons_of_neg (by simpa using other)]
    exact capital

/-- A name that leads with a capital can be a field. -/
theorem isFieldName {name : String} (leads : LeadsWithCapital name) : IsFieldName name := by
  obtain ⟨body, capital⟩ := leads
  rw [IsFieldName]
  cases chars : name.toList with
  | nil =>
    rw [chars] at capital
    exact Bool.noConfusion capital
  | cons c rest =>
    rw [chars] at body capital
    refine ⟨?_, fun d member => body d (List.mem_cons_of_mem c member)⟩
    by_cases separator : c = '_'
    · rw [separator]
      rfl
    · rw [List.dropWhile_cons_of_neg (by simpa using separator)] at capital
      exact Bool.or_eq_true_iff.2 (.inl capital)

/-- In camel case a name that leads with a capital can be a type. -/
theorem isTypeName_camel {name : String} (leads : LeadsWithCapital name) :
    IsTypeName (camel name) := by
  rw [IsTypeName, toList_camel]
  exact Chars.isWord_of_startsCapital
    (Chars.startsCapital_camel_of_dropWhile leads.body leads.capital)
    fun c member => Chars.isAlphanum_of_mem_camel leads.body member

end LeadsWithCapital

/-- A name that is finished leads with a capital where it begins with one or with a digit. -/
theorem leadsWithCapital_finishFieldName {name : String} (body : Chars.IsBody name.toList)
    (starts : Chars.StartsName name.toList) : LeadsWithCapital (finishFieldName name) := by
  have moved : LeadsWithCapital (additionalPropertiesField ++ "Field") :=
    .of_startsCapital (Chars.isBody_of_all rfl) rfl
  have started :
      LeadsWithCapital (if startsWithDigit name then digitFieldStart ++ name else name) := by
    have start : digitFieldStart.toList = ['V', 'a', 'r'] := rfl
    split
    · refine .of_startsCapital (isBody_append (Chars.isBody_of_all rfl) body) ?_
      rw [String.toList_append, start]
      rfl
    · rename_i letter
      exact .of_startsCapital body (starts.resolve_right letter)
  unfold finishFieldName
  generalize (if startsWithDigit name then digitFieldStart ++ name else name) = shown at started ⊢
  by_cases taken : shown = additionalPropertiesField
  · rw [if_pos taken, taken]
    exact moved
  · rw [if_neg taken]
    exact started

/-- A field name leads with a capital where no word has a replacement and the escape is the
underscore, which stands behind the camel case and changes no beginning. -/
theorem leadsWithCapital_of_noReplacements {reserved : ReservedWords}
    (nothing : reserved.replacements = Table.empty) (underscore : reserved.suffix = "_")
    (raw : String) :
    ∃ name, (fieldName reserved raw).name = .ofText name ∧ LeadsWithCapital name := by
  have body := isBody_sanitized raw
  have camelBody := isBody_camel body
  have escapedBody {name : String} (isBody : Chars.IsBody name.toList) :
      Chars.IsBody (camel name ++ "_").toList :=
    isBody_append (isBody_camel isBody) (Chars.isBody_of_all rfl)
  simp only [fieldName]
  split
  · rename_i capitals
    obtain ⟨all, some⟩ := Bool.and_eq_true_iff.1 capitals
    have leads : LeadsWithCapital (sanitize raw) := ⟨body, Chars.startsCapital_dropWhile all some⟩
    refine ⟨_, ReservedWords.name_avoid nothing _ _, ?_⟩
    rw [underscore]
    split
    · refine .of_startsCapital (escapedBody body) ?_
      rw [String.toList_append, toList_camel]
      exact Chars.startsCapital_append
        (Chars.startsCapital_camel_of_dropWhile body leads.capital) _
    · exact leads
  · split
    · exact ⟨emptyFieldName, rfl, .of_startsCapital (Chars.isBody_of_all rfl) rfl⟩
    · rename_i nonempty
      have starts : Chars.StartsName (camel (sanitize raw)).toList := by
        rw [toList_camel]
        refine Chars.startsName_camel body fun empty => nonempty ?_
        rw [camel, empty]
        rfl
      refine ⟨_, by rw [Named.map, ReservedWords.name_avoid nothing, Label.mapText_ofText], ?_⟩
      rw [underscore]
      split
      · refine leadsWithCapital_finishFieldName (escapedBody camelBody) ?_
        rw [String.toList_append, toList_camel (camel _)]
        exact starts.escaped camelBody _
      · exact leadsWithCapital_finishFieldName camelBody starts

/-- A field name leads with a capital. -/
theorem leadsWithCapital_fieldName (raw : String) :
    ∃ name, (fieldName plain raw).name = .ofText name ∧ LeadsWithCapital name :=
  leadsWithCapital_of_noReplacements rfl rfl raw

/-- The parameter name of a field is in camel case with its first capital lowered. -/
theorem isParameterName_parameterNameOfField {field : String} (leads : LeadsWithCapital field) :
    IsParameterName (parameterNameOfField plain field).name := by
  have word : Chars.IsWord Char.isLower Char.isAlphanum (lowerCamel field).toList := by
    have exported := leads.isTypeName_camel
    rw [IsTypeName, toList_camel] at exported
    rw [toList_lowerCamel, Chars.lowerCamel]
    obtain ⟨c, rest, chars, capital, further⟩ := exported.eq_cons
    have ascii := Chars.ascii_of_isBodyChar (Chars.isBodyChar_of_isUpper capital).1
    rw [chars, Chars.uncapitalize_of_ascii rest ascii]
    exact ⟨Chars.isLower_toLower ascii capital, further⟩
  simp only [parameterNameOfField]
  split
  · exact ⟨lowerCamel field, word, .inr rfl⟩
  · exact ⟨lowerCamel field, word, .inl rfl⟩

/-! ## Models and operations -/

/-- A body that begins with a digit does so in camel case. -/
theorem startsWithDigit_camel {body : String} (isBody : Chars.IsBody body.toList)
    (digit : startsWithDigit body = true) : startsWithDigit (camel body) = true := by
  rw [startsWithDigit, toList_camel]
  exact Chars.startsWithDigit_camel isBody digit

/-- A name in camel case begins with a digit where it does or did. -/
theorem startsWithDigit_or_camel_snake {body : String} (isBody : Chars.IsBody body.toList) :
    (startsWithDigit body || startsWithDigit (camel (snake body))) =
      startsWithDigit (camel (snake body)) := by
  cases digit : startsWithDigit body with
  | false => exact Bool.false_or _
  | true =>
    have snakeDigit : startsWithDigit (snake body) = true := by
      rw [startsWithDigit, toList_snake]
      exact Chars.startsWithDigit_snake isBody digit
    exact (Bool.true_or _).trans (startsWithDigit_camel (isBody_snake isBody) snakeDigit).symm

/-- Whether a model or operation of a body is corrected, given the camel case that would be its
name: one of the two is reserved, or the name would be empty or begin with a digit. -/
def needsCorrection (reserved : ReservedWords) (body camelized : String) : Bool :=
  reserved.isReserved body || reserved.isReserved camelized ||
    (camelized.isEmpty || startsWithDigit camelized)

/-- Where nothing is corrected the name is not reserved, not empty and without a digit in front. -/
theorem needsCorrection_eq_false {reserved : ReservedWords} {body camelized : String}
    (settled : ¬ needsCorrection reserved body camelized = true) :
    reserved.isReserved camelized = false ∧ camelized.isEmpty = false ∧
      startsWithDigit camelized = false := by
  simp only [needsCorrection, Bool.not_eq_true, Bool.or_eq_false_iff] at settled
  exact ⟨settled.1.2, settled.2⟩

/-- Of a name that is corrected for either of two reasons only the warning depends on the reason. -/
theorem Named.name_of_reasons (first second : Bool) (fixed kept firstText secondText : String) :
    (if first then Named.corrected fixed firstText
      else if second then Named.corrected fixed secondText else Named.kept kept).name =
      if first || second then fixed else kept := by
  cases first with
  | true => rfl
  | false =>
    cases second with
    | true => rfl
    | false => rfl

/-- A model is its snake case, or that behind its start. -/
theorem name_snakeModelName (reserved : ReservedWords) (raw : String) :
    (snakeModelName reserved raw).name =
      if needsCorrection reserved (sanitize raw) (camel (snakeBody raw))
      then snake (modelStart ++ sanitize raw) else snakeBody raw := by
  simp only [snakeModelName, Bool.or_assoc _ (startsWithDigit (sanitize raw)),
    startsWithDigit_or_camel_snake (isBody_sanitized raw)]
  exact Named.name_of_reasons _ _ _ _ _ _

/-- An operation is its camel case, or that behind its start. -/
theorem name_operationName (reserved : ReservedWords) (raw : String) :
    (operationName reserved raw).name =
      if needsCorrection reserved (sanitize raw) (camel (sanitize raw))
      then camel (operationStart ++ sanitize raw) else camel (sanitize raw) := by
  simp only [operationName, needsCorrection]
  exact Named.name_of_reasons _ _ _ _ _ _

/-- Camel case that is neither empty nor begins with a digit can be a type. -/
theorem isTypeName_camel {body : String} (isBody : Chars.IsBody body.toList)
    (nonempty : (camel body).isEmpty = false) (letter : startsWithDigit (camel body) = false) :
    IsTypeName (camel body) := by
  rw [startsWithDigit, toList_camel] at letter
  rw [IsTypeName, toList_camel]
  refine Chars.isWord_of_startsCapital (Chars.startsCapital_camel isBody (fun empty => ?_) letter)
    fun c member => Chars.isAlphanum_of_mem_camel isBody member
  rw [camel, empty] at nonempty
  exact Bool.noConfusion nonempty

/-- A name with a start that can be a type can be one where letters and digits follow. -/
theorem isTypeName_of_start {name : String} {start rest : List Char}
    (chars : name.toList = start ++ Chars.camel rest) (body : Chars.IsBody rest)
    (word : Chars.IsWord Char.isUpper Char.isAlphanum start) : IsTypeName name := by
  obtain ⟨c, more, rfl, capital, further⟩ := word.eq_cons
  rw [IsTypeName, chars]
  refine ⟨capital, fun d member => ?_⟩
  rcases List.mem_append.1 member with early | late
  · exact further d early
  · exact Chars.isAlphanum_of_mem_camel body late

/-- Every text has a type name. -/
theorem isTypeName_snakeModelName (reserved : ReservedWords) (raw : String) :
    IsTypeName (camel (snakeModelName reserved raw).name) := by
  have body := isBody_sanitized raw
  have corrected : IsTypeName (camel (snake (modelStart ++ sanitize raw))) :=
    isTypeName_of_start (toList_correctedModelName body) body.snake (by decide)
  rw [name_snakeModelName]
  split
  · exact corrected
  · rename_i settled
    obtain ⟨-, nonempty, letter⟩ := needsCorrection_eq_false settled
    exact isTypeName_camel (isBody_snake body) nonempty letter

/-- Every text has a method name. -/
theorem isTypeName_operationName (reserved : ReservedWords) (raw : String) :
    IsTypeName (operationName reserved raw).name := by
  have body := isBody_sanitized raw
  have corrected : IsTypeName (camel (operationStart ++ sanitize raw)) :=
    isTypeName_of_start (toList_correctedOperationName _) body (by decide)
  rw [name_operationName]
  split
  · exact corrected
  · rename_i settled
    obtain ⟨-, nonempty, letter⟩ := needsCorrection_eq_false settled
    exact isTypeName_camel body nonempty letter

/-! ## Inline enumerations -/

/-- A type name in snake case capitals begins with a capital. -/
theorem IsTypeName.startsCapital_upper_snake {name : String} (exported : IsTypeName name) :
    Chars.startsCapital (Text.upper (snake name)).toList = true := by
  obtain ⟨c, rest, spelt, capital, -⟩ := exported.eq_cons
  have body := exported.isBody
  rw [Text.toList_upper, toList_snake, Chars.upper_of_ascii _ body.snake.isAscii]
  rw [spelt] at body ⊢
  obtain ⟨tail, first⟩ := Chars.snake_cons body
  rw [first]
  exact Chars.isUpper_toUpper_toLower (body.isAscii c List.mem_cons_self) capital

/-- The type of an inline enumeration is a type name in snake case capitals. -/
theorem IsTypeName.enumTypeNameOfModel_eq {name : String} (exported : IsTypeName name) :
    enumTypeNameOfModel name = Text.upper (snake name) := by
  have letter : startsWithDigit (Text.upper (snake name)) = false := by
    refine Chars.startsWithDigit_of_startsCapital ?_ exported.startsCapital_upper_snake
    rw [Text.toList_upper, toList_snake]
    exact exported.isBody.snake.upper
  simp only [enumTypeNameOfModel, dropEmptyBrackets_upper_snake exported.isBody, letter,
    Bool.false_eq_true, if_false]

/-- A type name in snake case capitals can be that of an inline enumeration. -/
theorem isEnumTypeName_enumTypeNameOfModel {name : String} (exported : IsTypeName name) :
    IsEnumTypeName (enumTypeNameOfModel name) := by
  have body := exported.isBody.snake
  rw [exported.enumTypeNameOfModel_eq]
  refine Chars.isWord_of_startsCapital exported.startsCapital_upper_snake fun d member => ?_
  rw [Text.toList_upper, toList_snake, Chars.upper_of_ascii _ body.isAscii] at member
  obtain ⟨c, there, rfl⟩ := List.mem_map.1 member
  exact Chars.toUpper_of_isBodyChar (body c there)

/-! ## All names -/

/-- Settings that override no name and reserve no further word make a naming that gives every text,
the empty one and those without any letter or digit included, a field name, a parameter name, a type
name, a method name and an enumeration name, each spelt as names of its class are and each a legal
identifier. The affixes of model names are arbitrary. -/
theorem names_spelt {settings : Settings} (nothing : settings.OverridesNothing)
    (noWords : settings.extraReservedWords = []) :
    ∃ naming, Naming.ofSettings settings = .ok naming ∧ ∀ raw : String,
      (∃ name, (naming.fieldName raw).result = .ok (.ofText name) ∧
        IsFieldName name ∧ IsIdentifier name) ∧
      (∃ name, (naming.parameterName raw).result = .ok (.ofText name) ∧
        IsParameterName name ∧ IsIdentifier name) ∧
      (∃ name, (naming.modelName raw).result = .ok (.ofText name) ∧
        IsTypeName name ∧ IsIdentifier name) ∧
      (IsTypeName (naming.operationName raw).name ∧
        IsIdentifier (naming.operationName raw).name) ∧
      (∃ name, (naming.enumTypeName raw).result = .ok (.ofText name) ∧
        IsEnumTypeName name ∧ IsIdentifier name) := by
  refine ⟨⟨settings, plain⟩, ?_, fun raw => ?_⟩
  · rw [Naming.ofSettings, ReservedWords.ofSettings_eq_plain nothing noWords]
    rfl
  obtain ⟨field, named, leads⟩ := leadsWithCapital_fieldName raw
  obtain ⟨other, namedFree, fieldFree⟩ := isFree_fieldName raw
  have same : field = other := congrArg Label.text (named.symm.trans namedFree)
  rw [← same] at fieldFree
  have parameter : IsParameterName (parameterNameOfField plain field).name :=
    isParameterName_parameterNameOfField leads
  have parameterFree := isFree_parameterNameOfField field
  have model : IsTypeName (camel (snakeModelName plain (applyAffixes settings raw)).name) :=
    isTypeName_snakeModelName plain _
  have modelFree := isFree_snakeModelName (applyAffixes settings raw)
  have enumeration := isEnumTypeName_enumTypeNameOfModel model
  have operation : IsTypeName (operationName plain raw).name := isTypeName_operationName plain raw
  refine ⟨⟨field, ?_, leads.isFieldName, leads.isFieldName.isIdentifier fieldFree⟩,
    ⟨_, Naming.parameterName_result nothing raw, ?_⟩,
    ⟨_, Naming.modelName_result nothing raw, model, model.isIdentifier modelFree⟩,
    ⟨operation, operation.isIdentifier (isFree_operationName raw)⟩,
    ⟨_, Naming.enumTypeName_result nothing raw, enumeration, enumeration.isIdentifier ?_⟩⟩
  · rw [Naming.fieldName_result nothing, named]
  · rw [named, Label.text_ofText]
    exact ⟨parameter, parameter.isIdentifier parameterFree⟩
  · exact isFree_enumTypeNameOfModel (isBody_camel (isBody_snakeModelName plain _)) modelFree

/-- Under affixes of a digit and a letter that is not ASCII, a text of underscores and a digit has
legal names of every class. -/
theorem underscored_digit_names_spelt :
    ∃ naming, Naming.ofSettings { modelNamePrefix := "9", modelNameSuffix := "é" } = .ok naming ∧
      (∃ name, (naming.fieldName "__5").result = .ok (.ofText name) ∧ IsFieldName name) ∧
      (∃ name, (naming.parameterName "__5").result = .ok (.ofText name) ∧
        IsParameterName name) ∧
      (∃ name, (naming.modelName "__5").result = .ok (.ofText name) ∧ IsTypeName name) ∧
      IsTypeName (naming.operationName "__5").name ∧
      ∃ name, (naming.enumTypeName "__5").result = .ok (.ofText name) ∧ IsEnumTypeName name := by
  have nothing : Settings.OverridesNothing { modelNamePrefix := "9", modelNameSuffix := "é" } :=
    ⟨rfl, rfl, rfl, rfl, rfl⟩
  obtain ⟨naming, built, spelt⟩ := names_spelt nothing rfl
  obtain ⟨⟨field, named, isField, -⟩, ⟨parameter, given, isParameter, -⟩,
    ⟨model, told, isModel, -⟩, ⟨isOperation, -⟩, ⟨type, made, isType, -⟩⟩ := spelt "__5"
  exact ⟨naming, built, ⟨field, named, isField⟩, ⟨parameter, given, isParameter⟩,
    ⟨model, told, isModel⟩, isOperation, ⟨type, made, isType⟩⟩

end GoBindings
