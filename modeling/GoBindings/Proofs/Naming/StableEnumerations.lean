import GoBindings.Proofs.Naming.StableTypes

/-!
# Enumeration types named again

The type of an inline enumeration is a type name in snake case and in capitals. Given as a name
again it is put into snake case once more, and now that its letters are capitals a word begins
behind every digit that a letter follows. So the second naming parts a letter from the digit before
it, and it leaves no such letter behind: the main statement says that the type is left alone exactly
where no letter stands right behind a digit, and that what the second naming gives is left alone.
-/

namespace GoBindings

open ReservedWords (plain)

namespace Chars

/-! ## Letters behind digits -/

/-- No letter stands right behind a digit. -/
def SeparatesDigits (s : List Char) : Prop :=
  s.IsChain fun c d => c.isDigit = true → d.isAlpha = false

instance (s : List Char) : Decidable (SeparatesDigits s) :=
  inferInstanceAs (Decidable (List.IsChain _ s))

/-- A text separates digits where it does so at its beginning and behind it. -/
theorem separatesDigits_cons {c : Char} {rest : List Char} :
    SeparatesDigits (c :: rest) ↔
      (∀ d ∈ rest.head?, c.isDigit = true → d.isAlpha = false) ∧ SeparatesDigits rest :=
  List.isChain_cons

/-- A digit is no letter. -/
theorem isAlpha_of_isDigit {c : Char} (digit : c.isDigit = true) : c.isAlpha = false := by
  have ascii : c.toNat < 0x80 := (Char.isDigit_iff_toNat.1 digit).2.trans_lt (by decide)
  exact ascii_induction (P := fun c => c.isDigit = true → c.isAlpha = false) (by decide) ascii digit

/-- A text begins as its first part does, which is empty where the text begins with an
underscore. -/
theorem head?_of_segments {s head : List Char} {tail : List (List Char)}
    (cut : segments '_' s = head :: tail) :
    s.head? = head.head? ∨ s.head? = some '_' ∧ head = [] := by
  cases s with
  | nil =>
    cases cut
    exact .inl rfl
  | cons c rest =>
    rw [segments] at cut
    split at cut
    · rename_i separator
      cases cut
      exact .inr ⟨congrArg some separator, rfl⟩
    · split at cut
      · cases cut
        exact .inl rfl
      · cases cut
        exact .inl rfl

/-- A text separates digits where its parts do, since underscores are neither digits nor letters. -/
theorem separatesDigits_iff_segments (s : List Char) :
    SeparatesDigits s ↔ ∀ part ∈ segments '_' s, SeparatesDigits part := by
  induction s with
  | nil => simp [segments]
  | cons c rest ih =>
    rw [separatesDigits_cons, ih, segments]
    by_cases separator : c = '_'
    · have digit : '_'.isDigit = false := rfl
      simp [separator, digit, SeparatesDigits]
    · cases cut : segments '_' rest with
      | nil => exact absurd cut (segments_ne_nil '_' rest)
      | cons head tail =>
        have first : (∀ d ∈ rest.head?, c.isDigit = true → d.isAlpha = false) ↔
            ∀ d ∈ head.head?, c.isDigit = true → d.isAlpha = false := by
          rcases head?_of_segments cut with same | ⟨separated, rfl⟩
          · rw [same]
          · have letter : '_'.isAlpha = false := rfl
            simp [separated, letter]
        rw [if_neg separator, List.forall_mem_cons, List.forall_mem_cons, separatesDigits_cons,
          first, and_assoc]

/-- What begins with a character begins with a letter where that is one. -/
theorem startsWithLetters_of_head? {s : List Char} {c : Char} (begins : c ∈ s.head?) :
    startsWithLetters 1 s = c.isAlpha := by
  cases s with
  | nil => cases begins
  | cons d rest =>
    cases begins
    exact startsWithLetters_one_cons c rest

/-- What ends with a digit is not a letter alone. -/
theorem isLetter_of_getLast? {s : List Char} {c : Char} (last : c ∈ s.getLast?)
    (digit : c.isDigit = true) : isLetter s = false := by
  cases s with
  | nil => rfl
  | cons d rest =>
    cases rest with
    | nil =>
      cases last
      exact isAlpha_of_isDigit digit
    | cons e others => rfl

/-- Parts that separate digits do so regrouped: a letter is joined to what stands before it only
where that is a letter. -/
theorem separatesDigits_of_mem_regroup {ps : List (List Char)} (nonempty : ∀ part ∈ ps, part ≠ [])
    (separate : ∀ part ∈ ps, SeparatesDigits part) : ∀ word ∈ regroup ps, SeparatesDigits word := by
  induction ps using regroup.induct with
  | case1 => exact separate
  | case2 part => exact separate
  | case3 part next rest apart ih =>
    obtain ⟨here, later⟩ := List.forall_mem_cons.1 separate
    rw [regroup, if_pos apart]
    exact List.forall_mem_cons.2 ⟨here, ih (List.forall_mem_cons.1 nonempty).2 later⟩
  | case4 part next rest joined ih =>
    obtain ⟨here, later⟩ := List.forall_mem_cons.1 separate
    obtain ⟨-, further⟩ := List.forall_mem_cons.1 nonempty
    obtain ⟨there, -⟩ := List.forall_mem_cons.1 further
    obtain ⟨more, words, first⟩ := exists_regroup_cons next rest
    have settled := ih further later
    rw [first] at settled
    obtain ⟨head, tail⟩ := List.forall_mem_cons.1 settled
    rw [regroup, if_neg joined, first, glue]
    refine List.forall_mem_cons.2 ⟨List.IsChain.append here head fun c last d begins digit => ?_,
      tail⟩
    rw [List.head?_append_of_ne_nil next there] at begins
    by_contra letter
    refine joined ⟨?_, fun alone => ?_⟩
    · rw [startsWithLetters_of_head? begins]
      exact Bool.not_eq_false _ ▸ letter
    · rw [isLetter_of_getLast? last digit] at alone
      cases alone

/-- A text changed character by character separates digits where the text does, if the change makes
neither digits nor letters of other characters. -/
theorem SeparatesDigits.map {s : List Char} (separate : SeparatesDigits s) {f : Char → Char}
    (kept : ∀ c ∈ s, (f c).isDigit = c.isDigit ∧ (f c).isAlpha = c.isAlpha) :
    SeparatesDigits (s.map f) := by
  rw [SeparatesDigits, List.isChain_map]
  refine separate.imp_of_mem_imp fun c d first second apart => ?_
  rw [(kept c first).1, (kept d second).2]
  exact apart

/-! ## Names in capitals -/

/-- A text of capitals, digits and underscores. -/
def IsCapitals (s : List Char) : Prop := ∀ c ∈ s, (c.isUpper || c.isDigit || c == '_') = true

instance (s : List Char) : Decidable (IsCapitals s) := decidable_of_iff _ List.all_eq_true

/-- A capital, a digit or an underscore is a body character and no small letter. -/
theorem isBodyChar_of_capital {c : Char} (capital : (c.isUpper || c.isDigit || c == '_') = true) :
    isBodyChar c = true ∧ c.isLower = false := by
  have body : isBodyChar c = true := by
    simp only [Bool.or_eq_true] at capital
    rcases capital with (upper | digit) | separator
    · exact (isBodyChar_of_isUpper upper).1
    · simp [isBodyChar, Char.isAlphanum, digit]
    · exact Bool.or_eq_true_iff.2 (.inr separator)
  exact ⟨body, ascii_induction (P := fun c => (c.isUpper || c.isDigit || c == '_') = true →
    c.isLower = false) (by decide) (ascii_of_isBodyChar body) capital⟩

/-- Such a text is a body. -/
theorem IsCapitals.isBody {s : List Char} (capitals : IsCapitals s) : IsBody s :=
  fun c member => (isBodyChar_of_capital (capitals c member)).1

/-- No capitalised word begins among capitals. -/
theorem startsWord_of_capitals {s : List Char} (capitals : IsCapitals s) :
    startsWord s = false := by
  cases s with
  | nil => rfl
  | cons c rest =>
    cases rest with
    | nil => rfl
    | cons d more =>
      have second : d.isLower = false := (isBodyChar_of_capital (capitals d (by simp))).2
      cases more with
      | nil => rfl
      | cons e others => rw [startsWord, second, Bool.and_false, Bool.false_and]

/-- Among capitals a part ends at a digit that a capital follows. -/
theorem endsPart_of_capitals {c : Char} {rest : List Char} (capitals : IsCapitals (c :: rest)) :
    endsPart c rest = (c.isDigit && startsCapital rest) := by
  obtain ⟨here, later⟩ := List.forall_mem_cons.1 capitals
  obtain ⟨body, small⟩ := isBodyChar_of_capital here
  rw [endsPart, endsAcronym, startsWord_of_capitals later, endsWord, small, isDecimalDigit_of_ascii
    (ascii_of_isBodyChar body), Bool.and_false, Bool.false_or, Bool.false_or]

/-- Among capitals what begins with a letter begins with a capital. -/
theorem startsCapital_of_capitals {s : List Char} (capitals : IsCapitals s) :
    startsCapital s = s.head?.any Char.isAlpha := by
  cases s with
  | nil => rfl
  | cons c rest =>
    have small := (isBodyChar_of_capital (capitals c List.mem_cons_self)).2
    rw [startsCapital, List.head?_cons, Option.any_some, isAlpha_eq, small, Bool.or_false]

/-- Among capitals no part ends where digits are separated. -/
theorem breakWhere_of_separatesDigits {s : List Char} (capitals : IsCapitals s)
    (separate : SeparatesDigits s) : breakWhere endsPart s = s := by
  induction s with
  | nil => rfl
  | cons c rest ih =>
    obtain ⟨-, later⟩ := List.forall_mem_cons.1 capitals
    obtain ⟨first, further⟩ := separatesDigits_cons.1 separate
    have whole : endsPart c rest = false := by
      rw [endsPart_of_capitals capitals, startsCapital_of_capitals later]
      cases digit : c.isDigit with
      | false => rfl
      | true =>
        cases next : rest.head? with
        | none => rfl
        | some d => exact first d next digit
    rw [breakWhere, whole, ih later further]
    rfl

/-- Capitals broken into parts have their digits separated. -/
theorem separatesDigits_breakWhere {s : List Char} (capitals : IsCapitals s) :
    SeparatesDigits (breakWhere endsPart s) := by
  induction s with
  | nil => exact .nil
  | cons c rest ih =>
    obtain ⟨-, later⟩ := List.forall_mem_cons.1 capitals
    have settled := ih later
    rw [breakWhere, endsPart_of_capitals capitals]
    split
    · refine separatesDigits_cons.2 ⟨?_, separatesDigits_cons.2 ⟨?_, settled⟩⟩
      · rintro d ⟨⟩ -
        rfl
      · exact fun d _ digit => absurd digit (by decide)
    · rename_i whole
      refine separatesDigits_cons.2 ⟨fun d begins digit => ?_, settled⟩
      rw [startsCapital_of_capitals later, digit, Bool.true_and] at whole
      cases rest with
      | nil => cases begins
      | cons e more =>
        obtain ⟨tail, chars⟩ := breakWhere_cons endsPart e more
        rw [chars] at begins
        cases begins
        exact Bool.eq_false_iff.2 whole

/-- The small form of a body character is a digit or letter where the character is. -/
theorem kinds_toLower {c : Char} (body : isBodyChar c = true) :
    c.toLower.isDigit = c.isDigit ∧ c.toLower.isAlpha = c.isAlpha :=
  ascii_induction (P := fun c => c.toLower.isDigit = c.isDigit ∧ c.toLower.isAlpha = c.isAlpha)
    (by decide) (ascii_of_isBodyChar body)

/-- The capital form of a body character is a digit or letter where the character is. -/
theorem kinds_toUpper {c : Char} (body : isBodyChar c = true) :
    c.toUpper.isDigit = c.isDigit ∧ c.toUpper.isAlpha = c.isAlpha :=
  ascii_induction (P := fun c => c.toUpper.isDigit = c.isDigit ∧ c.toUpper.isAlpha = c.isAlpha)
    (by decide) (ascii_of_isBodyChar body)

/-- Snake casing separates the digits of capitals. -/
theorem separatesDigits_snake {s : List Char} (capitals : IsCapitals s) :
    SeparatesDigits (snake s) := by
  rw [snake_eq_breakWhere capitals.isBody]
  refine (separatesDigits_breakWhere capitals).map fun c member => kinds_toLower ?_
  rcases of_mem_breakWhere member with there | rfl
  · exact capitals.isBody c there
  · rfl

/-- Capitals whose digits are separated are only lowered. -/
theorem snake_of_separatesDigits {s : List Char} (capitals : IsCapitals s)
    (separate : SeparatesDigits s) : snake s = lower s := by
  rw [snake_eq_breakWhere capitals.isBody, breakWhere_of_separatesDigits capitals separate,
    lower_of_ascii s capitals.isBody.isAscii]

/-- A body in capitals consists of capitals. -/
theorem IsBody.isCapitals_upper {s : List Char} (body : IsBody s) : IsCapitals (Chars.upper s) := by
  rw [upper_of_ascii s body.isAscii]
  intro d member
  obtain ⟨c, there, rfl⟩ := List.mem_map.1 member
  exact toUpper_of_isBodyChar (body c there)

/-- A body in capitals has its digits separated where the body has. -/
theorem SeparatesDigits.upper {s : List Char} (separate : SeparatesDigits s) (body : IsBody s) :
    SeparatesDigits (Chars.upper s) := by
  rw [upper_of_ascii s body.isAscii]
  exact separate.map fun c member => kinds_toUpper (body c member)

/-- A text in snake case is its own in small letters. -/
theorem IsSnake.lower_eq {s : List Char} (snakeCase : IsSnake s) : lower s = s := by
  rw [lower_of_ascii s snakeCase.isBody.isAscii, map_toLower_eq_self]
  exact fun c member =>
    (small_of_snakeChar (snakeCase.isBody.isAscii c member) (snakeCase c member)).1

/-- The snake case of camel case has its digits separated where the name in snake case has. -/
theorem SeparatesDigits.snake_camel {s : List Char} (separate : SeparatesDigits s)
    (snakeCase : IsSnake s) : SeparatesDigits (snake (camel s)) := by
  by_cases empty : camel s = []
  · rw [empty]
    exact .nil
  · rw [separatesDigits_iff_segments, segments_snake_camel snakeCase empty]
    refine separatesDigits_of_mem_regroup (fun part member => ?_) fun part member => ?_
    · exact (snakeCase.isSnakePart_of_mem member).nonempty
    · exact (separatesDigits_iff_segments s).1 separate part (List.mem_filter.1 member).1

/-! ## Capitals named again -/

/-- The type name of a name in snake case, in snake case capitals, given as a name again. -/
theorem snake_camel_snake_upper {s : List Char} (snakeCase : IsSnake s)
    (separate : SeparatesDigits (upper (snake (camel s)))) :
    snake (camel (snake (upper (snake (camel s))))) = snake (camel s) := by
  have readBack : IsSnake (snake (camel s)) := snakeCase.isBody.camel.isSnake_snake
  rw [snake_of_separatesDigits readBack.isBody.isCapitals_upper separate,
    lower_upper readBack.isBody, readBack.lower_eq, snake_camel_snake_camel snakeCase]

end Chars

/-! ## Enumeration types -/

/-- The type name of an inline enumeration without settings. -/
def plainEnumTypeName (raw : String) : String := Text.upper (snake (plainTypeName raw))

/-- The type name of an inline enumeration without settings. -/
theorem Naming.enumTypeName_plain (raw : String) :
    (Naming.enumTypeName ⟨{}, plain⟩ raw).result = .ok (.ofText (plainEnumTypeName raw)) := by
  rw [Naming.enumTypeName_result Settings.overridesNothing_default, Naming.computedModelName,
    applyAffixes_of_empty rfl rfl]
  have type : IsTypeName (plainTypeName raw) := isTypeName_snakeModelName plain raw
  rw [plainEnumTypeName, ← type.enumTypeNameOfModel_eq]
  rfl

/-- The enumeration type name of a model is a body. -/
theorem isBody_plainEnumTypeName (raw : String) : Chars.IsBody (plainEnumTypeName raw).toList := by
  have type : IsTypeName (plainTypeName raw) := isTypeName_snakeModelName plain raw
  rw [plainEnumTypeName, Text.toList_upper, toList_snake]
  exact type.isBody.snake.upper

/-- An enumeration type that is given as a name has the camel case of its snake case as type
name. -/
theorem plainTypeName_plainEnumTypeName (raw : String) :
    plainTypeName (plainEnumTypeName raw) = camel (snake (plainEnumTypeName raw)) := by
  have type : IsTypeName (plainTypeName raw) := isTypeName_snakeModelName plain raw
  have snakeBody := type.isBody.snake
  refine plainTypeName_of_lower (isBody_plainEnumTypeName raw) raw ?_
  rw [plainEnumTypeName, Text.toList_upper, toList_snake,
    ← Chars.bare_lower snakeBody.upper.isAscii, Chars.lower_upper snakeBody,
    Chars.bare_lower snakeBody.isAscii, Chars.bare_snake type.isBody,
    Chars.lower_lower type.isBody.bare, Chars.bare_of_not_mem type.underscore_not_mem]

/-- An enumeration type whose digits are separated is left alone. -/
theorem plainEnumTypeName_of_separatesDigits {raw : String}
    (separate : Chars.SeparatesDigits (plainEnumTypeName raw).toList) :
    plainEnumTypeName (plainEnumTypeName raw) = plainEnumTypeName raw := by
  rw [plainEnumTypeName.eq_1 (plainEnumTypeName raw), plainTypeName_plainEnumTypeName]
  apply String.toList_inj.1
  simp only [plainEnumTypeName, plainTypeName, Text.toList_upper, toList_snake, toList_camel]
    at separate ⊢
  rw [Chars.snake_camel_snake_upper (isSnake_snakeModelName plain raw) separate]

/-- An enumeration type that is named again has its digits separated. -/
theorem separatesDigits_plainEnumTypeName_again (raw : String) :
    Chars.SeparatesDigits (plainEnumTypeName (plainEnumTypeName raw)).toList := by
  have type : IsTypeName (plainTypeName raw) := isTypeName_snakeModelName plain raw
  have capitals : Chars.IsCapitals (plainEnumTypeName raw).toList := by
    rw [plainEnumTypeName, Text.toList_upper, toList_snake]
    exact type.isBody.snake.isCapitals_upper
  have snakeCase : Chars.IsSnake (Chars.snake (plainEnumTypeName raw).toList) :=
    capitals.isBody.isSnake_snake
  rw [plainEnumTypeName.eq_1 (plainEnumTypeName raw), plainTypeName_plainEnumTypeName,
    Text.toList_upper, toList_snake, toList_camel, toList_snake]
  exact ((Chars.separatesDigits_snake capitals).snake_camel snakeCase).upper
    snakeCase.isBody.camel.snake

/-- Without settings every text has an enumeration type name, and that name given as a name has one
again. It is the same exactly where no letter of the name stands right behind a digit: any such
letter begins a word the second time. The name that comes out the second time comes out every
further time. -/
theorem enumTypeName_again_iff (raw : String) :
    ∃ naming, Naming.ofSettings {} = .ok naming ∧ ∃ name again : String,
      (naming.enumTypeName raw).result = .ok (.ofText name) ∧
      (naming.enumTypeName name).result = .ok (.ofText again) ∧
      (again = name ↔ Chars.SeparatesDigits name.toList) ∧
      (naming.enumTypeName again).result = .ok (.ofText again) := by
  have separated := separatesDigits_plainEnumTypeName_again raw
  refine ⟨_, Naming.ofSettings_default, plainEnumTypeName raw,
    plainEnumTypeName (plainEnumTypeName raw), Naming.enumTypeName_plain raw,
    Naming.enumTypeName_plain _, ⟨fun same => ?_, fun separate => ?_⟩, ?_⟩
  · rwa [same] at separated
  · exact plainEnumTypeName_of_separatesDigits separate
  · rw [Naming.enumTypeName_plain, plainEnumTypeName_of_separatesDigits separated]

/-- The enumeration of `v1beta` has the type `V1BETA`, which given as a name has the type
`V1_BETA`. -/
theorem digit_parted_again :
    ∃ naming, Naming.ofSettings {} = .ok naming ∧
      (naming.enumTypeName "v1beta").result = .ok (.ofText "V1BETA") ∧
      (naming.enumTypeName "V1BETA").result = .ok (.ofText "V1_BETA") := by
  have types : plainEnumTypeName "v1beta" = "V1BETA" ∧ plainEnumTypeName "V1BETA" = "V1_BETA" := by
    decide
  refine ⟨_, Naming.ofSettings_default, ?_, ?_⟩
  · rw [Naming.enumTypeName_plain, types.1]
  · rw [Naming.enumTypeName_plain, types.2]

end GoBindings
