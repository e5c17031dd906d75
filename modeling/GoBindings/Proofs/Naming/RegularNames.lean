import GoBindings.Proofs.Naming.Words

/-!
# Regular names

A name in snake case is regular where every part begins with a small letter and has a further small
letter or digit behind it. In camel case each part of such a name begins with a capital that stands
next to no other capital, so no acronym is found and every joint is. The main statement: snake
casing undoes camel casing on regular names, whether or not the first letter is made small, and so
no two of them have one camel case.
-/

namespace GoBindings

namespace Chars

/-- A small letter with one or more small letters and digits behind it. -/
def IsRegularPart (part : List Char) : Prop :=
  2 ≤ part.length ∧ IsWord Char.isLower isSmall part

instance (part : List Char) : Decidable (IsRegularPart part) := inferInstanceAs (Decidable (_ ∧ _))

/-- A text all of whose parts between underscores are regular. -/
def IsRegular (s : List Char) : Prop := ∀ part ∈ segments '_' s, IsRegularPart part

instance (s : List Char) : Decidable (IsRegular s) :=
  inferInstanceAs (Decidable (∀ part ∈ segments '_' s, IsRegularPart part))

namespace IsRegularPart

variable {part : List Char} (regular : IsRegularPart part)

include regular

/-- A regular part begins with a letter and another small letter or digit. -/
theorem eq_cons : ∃ c d rest, part = c :: d :: rest ∧ c.isLower = true ∧ isSmall c = true ∧
    ∀ e ∈ d :: rest, isSmall e = true := by
  obtain ⟨several, word⟩ := regular
  obtain ⟨c, more, rfl, first, further⟩ := word.eq_cons
  have small : isSmall c = true := by rw [isSmall, first, Bool.true_or]
  cases more with
  | nil => exact absurd several (Nat.not_succ_le_self 1)
  | cons d rest => exact ⟨c, d, rest, rfl, first, small, further⟩

/-- A regular part is a part of names in snake case. -/
theorem isSnakePart : IsSnakePart part := by
  obtain ⟨c, d, rest, rfl, -, first, further⟩ := regular.eq_cons
  exact ⟨List.cons_ne_nil _ _, List.forall_mem_cons.2 ⟨first, further⟩⟩

/-- A regular part is more than one letter. -/
theorem isLetter_eq_false : isLetter part = false := by
  obtain ⟨c, d, rest, rfl, -⟩ := regular.eq_cons
  rfl

/-- Behind a regular part another one stands apart in camel case. -/
theorem staysApart {next : List Char} (further : IsRegularPart next) : StaysApart part next := by
  obtain ⟨c, d, rest, rfl, letter, small, -⟩ := further.eq_cons
  refine ⟨?_, fun single => ?_⟩
  · rw [startsWithLetters_one_cons, isAlpha_of_isSmall small, letter]
  · rw [regular.isLetter_eq_false] at single
    exact Bool.noConfusion single

/-- With its capital made small again a regular part is as before, whatever stands behind it. -/
theorem uncapitalize_capitalize_append (tail : List Char) :
    uncapitalize (capitalize part ++ tail) = part ++ tail := by
  obtain ⟨c, d, rest, rfl, -, small, -⟩ := regular.eq_cons
  have ascii := ascii_of_isBodyChar (isBodyChar_of_isSmall small)
  have capitalAscii : c.toUpper.toNat < 0x80 :=
    ascii_of_isBodyChar (isBodyChar_toUpper (isBodyChar_of_isSmall small))
  have restored : c.toUpper.toLower = c :=
    (toLower_toUpper ascii).trans (toLower_of_isSmall small).2
  rw [IsSnakePart.capitalize_cons small, List.cons_append, uncapitalize_of_ascii _ capitalAscii,
    restored]
  rfl

/-- A regular part is broken in camel case where it is broken in small letters: before a capital. -/
theorem map_toLower_breakWhere_append (tail : List Char) :
    (breakWhere endsPart (part ++ tail)).map Char.toLower =
      (breakWhere endsPart (capitalize part ++ tail)).map Char.toLower := by
  have here := regular.isSnakePart
  have small : part.map Char.toLower = part :=
    map_toLower_eq_self.2 fun c member => (toLower_of_isSmall (here.small c member)).2
  have broken : breakWhere endsPart (part ++ tail) =
      part ++ if startsCapital tail then '_' :: breakWhere endsPart tail
        else breakWhere endsPart tail := by
    obtain ⟨c, d, rest, rfl, -, first, further⟩ := regular.eq_cons
    exact breakWhere_small_append first further tail
  rw [broken, breakWhere_capitalize_append here, regular.isLetter_eq_false, List.map_append,
    List.map_append, small, here.map_toLower_capitalize]
  rfl

end IsRegularPart

namespace IsRegular

variable {s : List Char} (regular : IsRegular s)

include regular

/-- A regular text is in snake case. -/
theorem isSnake : IsSnake s := by
  intro c member
  by_cases underscore : c = '_'
  · rw [underscore]
    rfl
  · have kept : c ∈ (segments '_' s).flatten := by
      rw [flatten_segments]
      exact List.mem_filter.2 ⟨member, bne_iff_ne.2 underscore⟩
    obtain ⟨part, there, inner⟩ := List.mem_flatten.1 kept
    have small : (c.isLower || c.isDigit) = true := (regular part there).isSnakePart.small c inner
    rw [small, Bool.true_or]

/-- No part of a regular text is empty. -/
theorem parts_eq : parts s = segments '_' s := by
  rw [parts, List.filter_eq_self]
  intro part there
  have nonempty := (regular part there).isSnakePart.nonempty
  simpa using nonempty

/-- The parts of a regular text stand apart in camel case. -/
theorem regroup_parts : regroup (parts s) = segments '_' s := by
  rw [regular.parts_eq]
  refine regroup_of_isChain (List.Pairwise.isChain (List.pairwise_of_forall_mem_list ?_))
  exact fun part there next beside => (regular part there).staysApart (regular next beside)

/-- The camel case of a regular text shows its first part and the other ones. -/
theorem exists_camel_eq : ∃ (part : List Char) (rest : List (List Char)), IsRegularPart part ∧
    camel s = capitalize part ++ rest.flatMap capitalize := by
  cases cut : segments '_' s with
  | nil => exact absurd cut (segments_ne_nil '_' s)
  | cons part rest =>
    refine ⟨part, rest, regular part (cut ▸ List.mem_cons_self), ?_⟩
    rw [camel, cut, List.flatMap_cons]

/-- Snake casing undoes the camel casing of a regular text. -/
theorem snake_camel : snake (camel s) = s := by
  have nonempty : camel s ≠ [] := by
    obtain ⟨part, rest, here, chars⟩ := regular.exists_camel_eq
    obtain ⟨c, d, more, rfl, -, small, -⟩ := here.eq_cons
    rw [chars, IsSnakePart.capitalize_cons small]
    exact List.cons_ne_nil _ _
  calc snake (camel s)
    _ = joinSegments '_' (segments '_' (snake (camel s))) := (joinSegments_segments _ _).symm
    _ = joinSegments '_' (segments '_' s) := by
        rw [segments_snake_camel regular.isSnake nonempty, regular.regroup_parts]
    _ = s := joinSegments_segments _ _

/-- Snake casing does not see whether the camel case of a regular text begins with a capital. -/
theorem snake_lowerCamel : snake (lowerCamel s) = s := by
  obtain ⟨part, rest, here, chars⟩ := regular.exists_camel_eq
  have body := regular.isSnake.isBody.camel
  rw [chars] at body
  have lowered : lowerCamel s = part ++ rest.flatMap capitalize := by
    rw [lowerCamel, chars, here.uncapitalize_capitalize_append]
  have loweredBody : IsBody (part ++ rest.flatMap capitalize) :=
    isBody_append.2 ⟨here.isSnakePart.isBody, (isBody_append.1 body).2⟩
  calc snake (lowerCamel s)
    _ = (breakWhere endsPart (part ++ rest.flatMap capitalize)).map Char.toLower := by
        rw [lowered, snake_eq_breakWhere loweredBody]
    _ = (breakWhere endsPart (camel s)).map Char.toLower := by
        rw [here.map_toLower_breakWhere_append, chars]
    _ = snake (camel s) := (snake_eq_breakWhere regular.isSnake.isBody.camel).symm
    _ = s := regular.snake_camel

end IsRegular

end Chars

/-- A name in snake case each of whose parts, joined by single underscores, is a small letter with
one or more small letters and digits behind it. -/
def IsRegularName (name : String) : Prop := Chars.IsRegular name.toList

instance (name : String) : Decidable (IsRegularName name) :=
  inferInstanceAs (Decidable (Chars.IsRegular name.toList))

namespace IsRegularName

variable {name : String} (regular : IsRegularName name)

include regular

/-- A regular name is its own snake case. -/
theorem snake_eq : snake name = name := by
  apply String.toList_inj.1
  rw [toList_snake, Chars.snake_of_isSnake regular.isSnake]

/-- A regular name is read back from its camel case. -/
theorem snake_camel : snake (camel name) = name := by
  apply String.toList_inj.1
  rw [toList_snake, toList_camel, Chars.IsRegular.snake_camel regular]

/-- A regular name is read back from its camel case with a small first letter. -/
theorem snake_lowerCamel : snake (lowerCamel name) = name := by
  apply String.toList_inj.1
  rw [toList_snake, toList_lowerCamel, Chars.IsRegular.snake_lowerCamel regular]

end IsRegularName

/-- A regular name is found again in snake case from either camel case, also where the name was put
into that style as every style is, by way of snake case. So regular names with one camel case are
one name. -/
theorem regular_round_trip {name : String} (regular : IsRegularName name) :
    snake (camel name) = name ∧ snake (lowerCamel name) = name ∧
      CaseStyle.snake.convert (CaseStyle.pascal.convert name) = name ∧
      CaseStyle.snake.convert (CaseStyle.camel.convert name) = name ∧
      ∀ other, IsRegularName other →
        (camel name = camel other → name = other) ∧
          (lowerCamel name = lowerCamel other → name = other) := by
  refine ⟨regular.snake_camel, regular.snake_lowerCamel, ?_, ?_, fun other further => ⟨?_, ?_⟩⟩
  · rw [CaseStyle.convert, CaseStyle.convert, regular.snake_eq, regular.snake_camel]
  · rw [CaseStyle.convert, CaseStyle.convert, regular.snake_eq, regular.snake_lowerCamel]
  · intro same
    rw [← regular.snake_camel, same, further.snake_camel]
  · intro same
    rw [← regular.snake_lowerCamel, same, further.snake_lowerCamel]

/-- Digits may end a part: `oauth2_api_v1` is found again, and no other name has its camel case. -/
theorem digit_ended_round_trip :
    IsRegularName "oauth2_api_v1" ∧ snake (camel "oauth2_api_v1") = "oauth2_api_v1" ∧
      snake (lowerCamel "oauth2_api_v1") = "oauth2_api_v1" ∧
      CaseStyle.snake.convert (CaseStyle.pascal.convert "oauth2_api_v1") = "oauth2_api_v1" ∧
      CaseStyle.snake.convert (CaseStyle.camel.convert "oauth2_api_v1") = "oauth2_api_v1" ∧
      IsRegularName "oauth2api_v1" ∧ camel "oauth2_api_v1" ≠ camel "oauth2api_v1" := by
  have regular : IsRegularName "oauth2_api_v1" := by decide
  have other : IsRegularName "oauth2api_v1" := by decide
  have different : "oauth2_api_v1" ≠ "oauth2api_v1" := by decide
  obtain ⟨found, foundSmall, pascal, camel, apart⟩ := regular_round_trip regular
  exact ⟨regular, found, foundSmall, pascal, camel, other, mt (apart _ other).1 different⟩

end GoBindings
