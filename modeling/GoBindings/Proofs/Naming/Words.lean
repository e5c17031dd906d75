import GoBindings.Proofs.Naming.FileSpelling
import Mathlib.Data.List.Chain

/-!
# Words of camel case

A name in snake case is made of parts between underscores, and its camel case shows them by their
capitals. Not every part can be told from the next one there: a digit has no capital, and a capital
that follows a lone capital begins a word only before two small letters. So the snake case of the
camel case is made of the parts with those neighbours joined that cannot be told apart. The main
statements: that regrouping is what camel and snake casing do to a name, and what is regrouped once
stays as it is.
-/

namespace GoBindings.Chars

/-! ## One pass over a body -/

/-- Whether a part of a name ends: an acronym does, or another word. -/
def endsPart (c : Char) (rest : List Char) : Bool := endsAcronym c rest || endsWord c rest

/-- Breaking does not change whether a text begins with a capital. -/
theorem startsCapital_breakWhere (test : Char → List Char → Bool) (s : List Char) :
    startsCapital (breakWhere test s) = startsCapital s := by
  cases s with
  | nil => rfl
  | cons c rest =>
    obtain ⟨tail, chars⟩ := breakWhere_cons test c rest
    rw [chars]
    rfl

/-- A capital ends no word but an acronym. -/
theorem endsWord_of_isUpper {c : Char} (ascii : c.toNat < 0x80) (capital : c.isUpper = true)
    (rest : List Char) : endsWord c rest = false := by
  have other : (c.isLower || c.isDigit) = false :=
    ascii_induction (P := fun c => c.isUpper = true → (c.isLower || c.isDigit) = false) (by decide)
      ascii capital
  rw [endsWord, isDecimalDigit_of_ascii ascii, other, Bool.false_and]

/-- To break acronyms and then words is to break where either ends: the underscore that goes in ends
no word, and neither does the capital before it. -/
theorem breakWords_breakAcronyms {s : List Char} (ascii : IsAscii s) :
    breakWords (breakAcronyms s) = breakWhere endsPart s := by
  rw [breakWords_eq, breakAcronyms_eq]
  induction s with
  | nil => rfl
  | cons c rest ih =>
    have later := ih fun d member => ascii d (List.mem_cons_of_mem c member)
    cases acronym : endsAcronym c rest with
    | true =>
      have capital : c.isUpper = true := (Bool.and_eq_true_iff.1 acronym).1
      have separator (tail : List Char) : endsWord '_' tail = false := rfl
      simp only [breakWhere, acronym, if_true,
        endsWord_of_isUpper (ascii c List.mem_cons_self) capital, separator, Bool.false_eq_true,
        if_false, endsPart, Bool.true_or, later]
    | false =>
      have next : endsWord c (breakWhere endsAcronym rest) = endsWord c rest := by
        rw [endsWord, endsWord, startsCapital_breakWhere]
      simp only [breakWhere, acronym, Bool.false_eq_true, if_false, next, endsPart, Bool.false_or,
        later]

/-- The snake case of a body is made in one pass. -/
theorem snake_eq_breakWhere {s : List Char} (body : IsBody s) :
    snake s = (breakWhere endsPart s).map Char.toLower := by
  have kept : brokenWords s = breakWhere endsPart s := by
    rw [brokenWords, breakWords_breakAcronyms body.isAscii]
    refine (List.map_congr_left fun c member => toUnderscore_of_isBodyChar ?_).trans (List.map_id _)
    rcases of_mem_breakWhere member with there | rfl
    · exact body c there
    · rfl
  change lower (brokenWords s) = _
  rw [lower_of_ascii _ body.isAscii.brokenWords, kept]

/-! ## Parts -/

/-- The parts of a name in snake case: what stands between its underscores and is not empty. -/
def parts (s : List Char) : List (List Char) := (segments '_' s).filter fun part => !part.isEmpty

/-- A small letter or a digit. -/
def isSmall (c : Char) : Bool := c.isLower || c.isDigit

/-- A part as names in snake case have it: small letters and digits, and at least one of them. -/
structure IsSnakePart (part : List Char) : Prop where
  /-- There is something in it. -/
  nonempty : part ≠ []
  /-- There is nothing else in it. -/
  small : ∀ c ∈ part, isSmall c = true

/-- Camel case is made of the parts. -/
theorem camel_eq_parts (s : List Char) : camel s = (parts s).flatMap capitalize := by
  rw [camel, parts]
  induction segments '_' s with
  | nil => rfl
  | cons part rest ih =>
    cases part with
    | nil => exact ih
    | cons c more =>
      rw [List.flatMap_cons, ih]
      rfl

/-- Names joined by an underscore have the parts of both. -/
theorem parts_append_underscore (a b : List Char) : parts (a ++ '_' :: b) = parts a ++ parts b := by
  rw [parts, segments_append, List.filter_append]
  rfl

/-- A name in snake case is made of such parts. -/
theorem IsSnake.isSnakePart_of_mem {s part : List Char} (snake : IsSnake s)
    (member : part ∈ parts s) : IsSnakePart part := by
  obtain ⟨there, nonempty⟩ := List.mem_filter.1 member
  refine ⟨fun empty => ?_, fun c inner => ?_⟩
  · rw [empty] at nonempty
    exact Bool.noConfusion nonempty
  · obtain ⟨stands, other⟩ := of_mem_segments there inner
    simpa [isSmall, other] using snake c stands

/-- A text before a text with separators goes to the first segment of that. -/
def glue (part : List Char) : List (List Char) → List (List Char)
  | [] => [part]
  | word :: words => (part ++ word) :: words

/-- A text without the separator goes to the first segment of what follows it. -/
theorem segments_append_of_not_mem {separator : Char} {part : List Char} (clean : separator ∉ part)
    (s : List Char) : segments separator (part ++ s) = glue part (segments separator s) := by
  induction part with
  | nil =>
    cases cut : segments separator s with
    | nil => exact absurd cut (segments_ne_nil separator s)
    | cons head tail => exact cut
  | cons c rest ih =>
    obtain ⟨other, later⟩ := not_or.1 (mt List.mem_cons.2 clean)
    rw [List.cons_append, segments, if_neg (Ne.symm other), ih later]
    cases segments separator s with
    | nil => rfl
    | cons head tail => rfl

/-! ## Small letters and digits -/

/-- A small letter or digit may stand in a body. -/
theorem isBodyChar_of_isSmall {c : Char} (small : isSmall c = true) : isBodyChar c = true := by
  rcases Bool.or_eq_true_iff.1 small with letter | digit
  · simp [isBodyChar, Char.isAlphanum, isAlpha_eq, letter]
  · simp [isBodyChar, Char.isAlphanum, digit]

/-- A property of the small letters and digits of ASCII. -/
theorem small_induction {P : Char → Prop}
    (check : ∀ n < 0x80, isSmall (Char.ofNat n) = true → P (Char.ofNat n)) {c : Char}
    (small : isSmall c = true) : P c :=
  ascii_induction (P := fun c => isSmall c = true → P c) check
    (ascii_of_isBodyChar (isBodyChar_of_isSmall small)) small

/-- A small letter or digit is no capital and its own small form. -/
theorem toLower_of_isSmall {c : Char} (small : isSmall c = true) :
    c.isUpper = false ∧ c.toLower = c :=
  small_induction (P := fun c => c.isUpper = false ∧ c.toLower = c) (by decide) small

/-- The capital form of a small letter is a capital, and a digit is its own. -/
theorem toUpper_of_isSmall {c : Char} (small : isSmall c = true) :
    c.toUpper.isUpper = c.isAlpha ∧ c.toUpper.isLower = false ∧
      (c.isAlpha = false → c.toUpper = c) :=
  small_induction (P := fun c => c.toUpper.isUpper = c.isAlpha ∧ c.toUpper.isLower = false ∧
    (c.isAlpha = false → c.toUpper = c)) (by decide) small

/-- Of the small letters and digits the letters are the small letters. -/
theorem isAlpha_of_isSmall {c : Char} (small : isSmall c = true) : c.isAlpha = c.isLower :=
  small_induction (P := fun c => c.isAlpha = c.isLower) (by decide) small

/-- Behind a small letter or digit a part ends where a capital follows. -/
theorem endsPart_of_isSmall {c : Char} (small : isSmall c = true) (rest : List Char) :
    endsPart c rest = startsCapital rest := by
  have ascii := ascii_of_isBodyChar (isBodyChar_of_isSmall small)
  have word : (c.isLower || c.isDigit) = true := small
  rw [endsPart, endsAcronym, (toLower_of_isSmall small).1, endsWord, isDecimalDigit_of_ascii ascii,
    word, Bool.false_and, Bool.false_or, Bool.true_and]

/-- Behind a capital a part ends where a capitalised word follows. -/
theorem endsPart_of_isUpper {c : Char} (capital : c.isUpper = true) (rest : List Char) :
    endsPart c rest = startsWord rest := by
  have ascii := ascii_of_isBodyChar (isBodyChar_of_isUpper capital).1
  rw [endsPart, endsWord_of_isUpper ascii capital, endsAcronym, capital, Bool.true_and,
    Bool.or_false]

/-- A capitalised word begins with a capital. -/
theorem startsWord_eq_false {s : List Char} (other : startsCapital s = false) :
    startsWord s = false := by
  match s with
  | [] | [_] | [_, _] => rfl
  | a :: b :: c :: rest =>
    have first : a.isUpper = false := other
    rw [startsWord, first, Bool.false_and, Bool.false_and]

namespace IsSnakePart

variable {part : List Char}

/-- A part is a first character and further ones. -/
theorem eq_cons (here : IsSnakePart part) :
    ∃ c rest, part = c :: rest ∧ isSmall c = true ∧ ∀ d ∈ rest, isSmall d = true := by
  cases part with
  | nil => exact absurd rfl here.nonempty
  | cons c rest =>
    exact ⟨c, rest, rfl, here.small c List.mem_cons_self,
      fun d member => here.small d (List.mem_cons_of_mem c member)⟩

/-- What a part begins with in camel case. -/
theorem capitalize_cons {c : Char} (small : isSmall c = true) (rest : List Char) :
    capitalize (c :: rest) = c.toUpper :: rest :=
  capitalize_of_ascii rest (ascii_of_isBodyChar (isBodyChar_of_isSmall small))

/-- A part of snake case is the body of a name. -/
theorem isBody (here : IsSnakePart part) : IsBody part :=
  fun c member => isBodyChar_of_isSmall (here.small c member)

/-- A part of snake case has no underscore. -/
theorem underscore_not_mem (here : IsSnakePart part) : '_' ∉ part :=
  fun member => absurd (here.small _ member) (by decide)

/-- In small letters a part in camel case is the part. -/
theorem map_toLower_capitalize (here : IsSnakePart part) :
    (capitalize part).map Char.toLower = part := by
  rw [Chars.map_toLower_capitalize here.isBody.isAscii, map_toLower_eq_self]
  exact fun c member => (toLower_of_isSmall (here.small c member)).2

end IsSnakePart

/-- Small letters and digits are broken at their end at most. -/
theorem breakWhere_small_append {c : Char} {rest : List Char} (first : isSmall c = true)
    (further : ∀ d ∈ rest, isSmall d = true) (tail : List Char) :
    breakWhere endsPart (c :: rest ++ tail) =
      c :: rest ++ if startsCapital tail then '_' :: breakWhere endsPart tail
        else breakWhere endsPart tail := by
  induction rest generalizing c with
  | nil =>
    rw [List.singleton_append, breakWhere, endsPart_of_isSmall first]
    split <;> rfl
  | cons d more ih =>
    obtain ⟨next, later⟩ := List.forall_mem_cons.1 further
    have inside : endsPart c (d :: more ++ tail) = false :=
      (endsPart_of_isSmall first _).trans (toLower_of_isSmall next).1
    rw [List.cons_append, breakWhere, inside, ih next later]
    rfl

/-! ## Parts that stand apart -/

/-- Whether a part is one letter. -/
def isLetter : List Char → Bool
  | [c] => c.isAlpha
  | _ => false

/-- Whether a text begins with some number of letters. -/
def startsWithLetters (count : Nat) (s : List Char) : Bool :=
  count ≤ (s.takeWhile Char.isAlpha).length

/-- Two neighbouring parts are told apart in camel case: the second begins with a letter, and behind
a part of one letter it begins with three. -/
def StaysApart (part next : List Char) : Prop :=
  startsWithLetters 1 next = true ∧ (isLetter part = true → startsWithLetters 3 next = true)

instance (part next : List Char) : Decidable (StaysApart part next) :=
  inferInstanceAs (Decidable (_ ∧ _))

/-- Some parts with those neighbours joined that camel case does not tell apart. -/
def regroup : List (List Char) → List (List Char)
  | [] => []
  | [part] => [part]
  | part :: next :: rest =>
    if StaysApart part next then part :: regroup (next :: rest)
    else glue part (regroup (next :: rest))

/-- A text begins with a letter where its first character is one. -/
theorem startsWithLetters_one_cons (c : Char) (rest : List Char) :
    startsWithLetters 1 (c :: rest) = c.isAlpha := by
  cases letter : c.isAlpha <;> simp [startsWithLetters, letter]

/-- A text that begins with three letters begins with one. -/
theorem startsWithLetters_one {s : List Char} (three : startsWithLetters 3 s = true) :
    startsWithLetters 1 s = true := by
  rw [startsWithLetters, decide_eq_true_eq] at three ⊢
  omega

/-- The letters that a text begins with it begins with when more follows. -/
theorem startsWithLetters_append {count : Nat} {s : List Char}
    (letters : startsWithLetters count s = true) (more : List Char) :
    startsWithLetters count (s ++ more) = true := by
  rw [startsWithLetters, decide_eq_true_eq] at letters ⊢
  refine letters.trans ?_
  rw [List.takeWhile_append]
  split
  · rename_i whole
    rw [List.length_append]
    omega
  · exact Nat.le_refl _

/-- Which letters decide depends on whether the first part is one letter. -/
theorem staysApart_iff {part next : List Char} : StaysApart part next ↔
    (if isLetter part then startsWithLetters 3 next else startsWithLetters 1 next) = true := by
  cases letter : isLetter part with
  | true => simpa [StaysApart, letter] using startsWithLetters_one
  | false => simp [StaysApart, letter]

/-- A part begins with a capital in camel case where it begins with a letter. -/
theorem startsCapital_capitalize_append {part : List Char} (here : IsSnakePart part)
    (tail : List Char) : startsCapital (capitalize part ++ tail) = startsWithLetters 1 part := by
  obtain ⟨c, rest, rfl, first, -⟩ := here.eq_cons
  rw [IsSnakePart.capitalize_cons first, startsWithLetters_one_cons]
  exact (toUpper_of_isSmall first).1

/-- A part begins with a capitalised word in camel case where it begins with three letters, unless
small letters follow it. -/
theorem startsWord_capitalize_append {part tail : List Char} (here : IsSnakePart part)
    (behind : ∀ c ∈ tail.head?, c.isLower = false) :
    startsWord (capitalize part ++ tail) = startsWithLetters 3 part := by
  obtain ⟨c, rest, rfl, first, further⟩ := here.eq_cons
  rw [IsSnakePart.capitalize_cons first]
  cases rest with
  | nil =>
    have short : startsWithLetters 3 [c] = false := by
      cases letter : c.isAlpha <;> simp [startsWithLetters, letter]
    rw [short]
    cases tail with
    | nil => rfl
    | cons e others =>
      have other : e.isLower = false := behind e rfl
      cases others with
      | nil => rfl
      | cons f more =>
        rw [List.singleton_append, startsWord, other, Bool.and_false, Bool.false_and]
  | cons d others =>
    cases others with
    | nil =>
      have short : startsWithLetters 3 [c, d] = false := by
        cases letter : c.isAlpha <;> cases second : d.isAlpha <;>
          simp [startsWithLetters, letter, second]
      rw [short]
      cases tail with
      | nil => rfl
      | cons e more =>
        have other : e.isLower = false := behind e rfl
        rw [List.cons_append, List.singleton_append, startsWord, other, Bool.and_false]
    | cons e more =>
      have second := isAlpha_of_isSmall (further d List.mem_cons_self)
      have third := isAlpha_of_isSmall (further e (List.mem_cons_of_mem d List.mem_cons_self))
      rw [List.cons_append, List.cons_append, List.cons_append, startsWord,
        (toUpper_of_isSmall first).1, ← second, ← third]
      cases one : c.isAlpha <;> cases two : d.isAlpha <;> cases three : e.isAlpha <;>
        simp [startsWithLetters, one, two, three]

/-- In camel case a part is broken at its end at most: before a capital, and a part of one letter
before a capitalised word. -/
theorem breakWhere_capitalize_append {part : List Char} (here : IsSnakePart part)
    (tail : List Char) : breakWhere endsPart (capitalize part ++ tail) =
      capitalize part ++
        if (if isLetter part then startsWord tail else startsCapital tail) = true
        then '_' :: breakWhere endsPart tail else breakWhere endsPart tail := by
  obtain ⟨c, rest, rfl, first, further⟩ := here.eq_cons
  obtain ⟨upper, -, digit⟩ := toUpper_of_isSmall first
  rw [IsSnakePart.capitalize_cons first]
  by_cases letter : c.isAlpha = true
  · rw [letter] at upper
    cases rest with
    | nil =>
      rw [List.singleton_append, breakWhere, endsPart_of_isUpper upper, isLetter, letter,
        if_pos rfl]
      split <;> rfl
    | cons d more =>
      obtain ⟨next, later⟩ := List.forall_mem_cons.1 further
      have inside : startsWord (d :: more ++ tail) = false :=
        startsWord_eq_false (toLower_of_isSmall next).1
      rw [List.cons_append, breakWhere, endsPart_of_isUpper upper, inside,
        breakWhere_small_append next later]
      rfl
  · have other := Bool.eq_false_iff.2 letter
    have several : isLetter (c :: rest) = false := by
      cases rest with
      | nil => exact other
      | cons d more => rfl
    rw [digit other, breakWhere_small_append first further, several]
    rfl

/-- Parts in camel case do not begin with a small letter. -/
theorem isLower_of_mem_head?_capitalized {rest : List (List Char)}
    (isParts : ∀ part ∈ rest, IsSnakePart part) :
    ∀ c ∈ (rest.flatMap capitalize).head?, c.isLower = false := by
  cases rest with
  | nil => simp
  | cons part more =>
    obtain ⟨c, others, rfl, first, -⟩ := (isParts part List.mem_cons_self).eq_cons
    rw [List.flatMap_cons, IsSnakePart.capitalize_cons first, List.cons_append, List.head?_cons]
    rintro d ⟨⟩
    exact (toUpper_of_isSmall first).2.1

/-! ## Parts read back -/

/-- The camel case of some parts, broken and lowered, is made of the parts regrouped. -/
theorem segments_breakWhere_capitalized {part : List Char} {rest : List (List Char)}
    (isParts : ∀ p ∈ part :: rest, IsSnakePart p) :
    segments '_' ((breakWhere endsPart ((part :: rest).flatMap capitalize)).map Char.toLower) =
      regroup (part :: rest) := by
  induction rest generalizing part with
  | nil =>
    have here := isParts part List.mem_cons_self
    have ends : (if isLetter part then startsWord [] else startsCapital []) = false := by
      split <;> rfl
    rw [List.flatMap_singleton, ← List.append_nil (capitalize part),
      breakWhere_capitalize_append here, ends]
    simp [breakWhere, here.map_toLower_capitalize, segments_of_not_mem here.underscore_not_mem,
      regroup]
  | cons next more ih =>
    obtain ⟨here, later⟩ := List.forall_mem_cons.1 isParts
    obtain ⟨there, further⟩ := List.forall_mem_cons.1 later
    have readBack := ih later
    rw [List.flatMap_cons, breakWhere_capitalize_append here]
    rw [List.flatMap_cons] at readBack ⊢
    rw [startsWord_capitalize_append there (isLower_of_mem_head?_capitalized further),
      startsCapital_capitalize_append there, regroup]
    by_cases apart : StaysApart part next
    · rw [if_pos (staysApart_iff.1 apart), if_pos apart, List.map_append, List.map_cons,
        here.map_toLower_capitalize, show '_'.toLower = '_' from rfl, segments_append,
        segments_of_not_mem here.underscore_not_mem, readBack]
      rfl
    · rw [if_neg (mt staysApart_iff.2 apart), if_neg apart, List.map_append,
        here.map_toLower_capitalize, segments_append_of_not_mem here.underscore_not_mem, readBack]

/-- What the camel case of a name in snake case is cut into when it is put into snake case again. -/
theorem segments_snake_camel {s : List Char} (snakeCase : IsSnake s) (nonempty : camel s ≠ []) :
    segments '_' (snake (camel s)) = regroup (parts s) := by
  rw [camel_eq_parts] at nonempty
  rw [snake_eq_breakWhere snakeCase.isBody.camel, camel_eq_parts]
  cases cut : parts s with
  | nil =>
    rw [cut] at nonempty
    exact absurd rfl nonempty
  | cons part rest =>
    refine segments_breakWhere_capitalized fun p member => snakeCase.isSnakePart_of_mem ?_
    rwa [cut]

/-- The first of the parts regrouped begins with the first part. -/
theorem exists_regroup_cons (part : List Char) (rest : List (List Char)) :
    ∃ more words, regroup (part :: rest) = (part ++ more) :: words := by
  cases rest with
  | nil => exact ⟨[], [], by rw [regroup, List.append_nil]⟩
  | cons next later =>
    rw [regroup]
    split
    · exact ⟨[], _, by rw [List.append_nil]⟩
    · cases regroup (next :: later) with
      | nil => exact ⟨[], [], by rw [glue, List.append_nil]⟩
      | cons word words => exact ⟨word, words, rfl⟩

/-- A part that stands apart from what follows is a word of its own. -/
theorem regroup_cons_of_apart {part : List Char} {ps : List (List Char)}
    (apart : ∀ next ∈ ps.head?, StaysApart part next) :
    regroup (part :: ps) = part :: regroup ps := by
  cases ps with
  | nil => rfl
  | cons next rest => rw [regroup, if_pos (apart next rfl)]

/-- A part is a word of its own or begins the first word of what follows. -/
theorem regroup_cons (part : List Char) (ps : List (List Char)) :
    regroup (part :: ps) = part :: regroup ps ∨
      ∃ word words, regroup ps = word :: words ∧
        regroup (part :: ps) = (part ++ word) :: words := by
  cases ps with
  | nil => exact .inl rfl
  | cons next rest =>
    obtain ⟨more, words, first⟩ := exists_regroup_cons next rest
    by_cases apart : StaysApart part next
    · exact .inl (by rw [regroup, if_pos apart])
    · exact .inr ⟨next ++ more, words, first, by rw [regroup, if_neg apart, first, glue]⟩

/-- Parts that stand apart are words already. -/
theorem regroup_of_isChain {ps : List (List Char)} (apart : ps.IsChain StaysApart) :
    regroup ps = ps := by
  induction ps with
  | nil => rfl
  | cons part ps ih =>
    obtain ⟨neighbour, later⟩ := List.isChain_cons.1 apart
    rw [regroup_cons_of_apart neighbour, ih later]

/-- Regrouping keeps the letters. -/
theorem flatten_regroup (ps : List (List Char)) : (regroup ps).flatten = ps.flatten := by
  induction ps with
  | nil => rfl
  | cons part rest ih =>
    rcases regroup_cons part rest with alone | ⟨word, words, first, joined⟩
    · rw [alone, List.flatten_cons, List.flatten_cons, ih]
    · rw [first] at ih
      rw [joined, List.flatten_cons, List.flatten_cons, ← ih, List.flatten_cons, List.append_assoc]

/-- Parts regrouped are not empty. -/
theorem nonempty_of_mem_regroup {ps : List (List Char)} (nonempty : ∀ part ∈ ps, part ≠ []) :
    ∀ word ∈ regroup ps, word ≠ [] := by
  induction ps with
  | nil => exact nonempty
  | cons part rest ih =>
    obtain ⟨here, later⟩ := List.forall_mem_cons.1 nonempty
    have further := ih later
    rcases regroup_cons part rest with alone | ⟨word, words, first, joined⟩
    · rw [alone]
      exact List.forall_mem_cons.2 ⟨here, further⟩
    · rw [first] at further
      rw [joined]
      exact List.forall_mem_cons.2
        ⟨List.append_ne_nil_of_left_ne_nil here word, (List.forall_mem_cons.1 further).2⟩

/-- A name in snake case without camel case has no parts. -/
theorem parts_eq_nil_of_camel {s : List Char} (snakeCase : IsSnake s) (empty : camel s = []) :
    parts s = [] := by
  cases cut : parts s with
  | nil => rfl
  | cons part rest =>
    have here : IsSnakePart part := by
      refine snakeCase.isSnakePart_of_mem ?_
      rw [cut]
      exact List.mem_cons_self
    obtain ⟨c, others, rfl, first, -⟩ := here.eq_cons
    rw [camel_eq_parts, cut, List.flatMap_cons, IsSnakePart.capitalize_cons first] at empty
    cases empty

/-- The camel case of a name in snake case is read back as its parts regrouped. -/
theorem parts_snake_camel {s : List Char} (snakeCase : IsSnake s) :
    parts (snake (camel s)) = regroup (parts s) := by
  by_cases empty : camel s = []
  · rw [empty, parts_eq_nil_of_camel snakeCase empty]
    rfl
  · rw [parts, segments_snake_camel snakeCase empty, List.filter_eq_self]
    intro word member
    have nonempty := nonempty_of_mem_regroup
      (fun part there => (snakeCase.isSnakePart_of_mem there).nonempty) word member
    simpa using nonempty

/-- Parts regrouped stand apart. A joined word has two characters at least, so what follows it need
not begin with three letters. -/
theorem isChain_regroup {ps : List (List Char)} (nonempty : ∀ part ∈ ps, part ≠ []) :
    (regroup ps).IsChain StaysApart := by
  induction ps using regroup.induct with
  | case1 => exact .nil
  | case2 part => exact .singleton part
  | case3 part next rest apart ih =>
    obtain ⟨more, words, first⟩ := exists_regroup_cons next rest
    have later := ih (List.forall_mem_cons.1 nonempty).2
    rw [first] at later
    rw [regroup, if_pos apart, first]
    refine .cons_cons ⟨startsWithLetters_append apart.1 more, fun letter => ?_⟩ later
    exact startsWithLetters_append (apart.2 letter) more
  | case4 part next rest joined ih =>
    obtain ⟨here, further⟩ := List.forall_mem_cons.1 nonempty
    obtain ⟨there, -⟩ := List.forall_mem_cons.1 further
    obtain ⟨more, words, first⟩ := exists_regroup_cons next rest
    have later := ih further
    rw [first] at later
    rw [regroup, if_neg joined, first, glue]
    have several : isLetter (part ++ (next ++ more)) = false := by
      match part, next with
      | c :: d :: _, _ => rfl
      | [c], e :: _ => rfl
    cases words with
    | nil => exact .singleton _
    | cons word words =>
      obtain ⟨apart, behind⟩ := List.isChain_cons_cons.1 later
      refine .cons_cons ⟨apart.1, fun letter => ?_⟩ behind
      rw [several] at letter
      exact Bool.noConfusion letter

end GoBindings.Chars
