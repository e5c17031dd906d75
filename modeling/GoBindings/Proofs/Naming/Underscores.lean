import GoBindings.Proofs.Naming.CaseLaws

/-!
# Names without their underscores

Case styles move underscores and change the case of letters, and they do nothing else: two bodies
that agree in small letters and without underscores have case styles that do. A reserved word is
compared in small letters, so what the case styles of a name have in common with it is read off the
name alone.
-/

namespace GoBindings.Chars

/-- A text without its underscores. -/
def bare (s : List Char) : List Char := s.filter (· != '_')

/-- Texts side by side lose their underscores each on its own. -/
theorem bare_append (a b : List Char) : bare (a ++ b) = bare a ++ bare b := List.filter_append a b

/-- Any other character stays. -/
theorem bare_cons_of_ne {c : Char} (other : c ≠ '_') (s : List Char) :
    bare (c :: s) = c :: bare s :=
  List.filter_cons_of_pos (by simpa using other)

/-- An underscore goes. -/
theorem bare_underscore_cons (s : List Char) : bare ('_' :: s) = bare s :=
  List.filter_cons_of_neg (by decide)

/-- A text without underscores is left alone. -/
theorem bare_of_not_mem {s : List Char} (clean : '_' ∉ s) : bare s = s := by
  refine List.filter_eq_self.2 fun c member => ?_
  rw [bne_iff_ne]
  rintro rfl
  exact clean member

/-- No underscore is left. -/
theorem underscore_not_mem_bare (s : List Char) : '_' ∉ bare s := by
  intro member
  exact absurd (List.mem_filter.1 member).2 (by decide)

/-- A body without its underscores is a body. -/
theorem IsBody.bare {s : List Char} (body : IsBody s) : IsBody (bare s) :=
  fun c member => body c (List.mem_filter.1 member).1

/-! ## Small letters -/

/-- Only the underscore lowers to it. -/
theorem toLower_eq_underscore {c : Char} (ascii : c.toNat < 0x80) : c.toLower = '_' ↔ c = '_' :=
  ascii_induction (P := fun c => c.toLower = '_' ↔ c = '_') (by decide) ascii

/-- Underscores may go before or after an ASCII text is lowered. -/
theorem bare_map_toLower {s : List Char} (ascii : IsAscii s) :
    bare (s.map Char.toLower) = (bare s).map Char.toLower := by
  induction s with
  | nil => rfl
  | cons c rest ih =>
    have first := toLower_eq_underscore (ascii c List.mem_cons_self)
    have later := ih fun d member => ascii d (List.mem_cons_of_mem c member)
    by_cases separator : c = '_'
    · rw [List.map_cons, first.2 separator, bare_underscore_cons, later, separator,
        bare_underscore_cons]
    · rw [List.map_cons, bare_cons_of_ne (mt first.1 separator), later, bare_cons_of_ne separator,
        List.map_cons]

/-- An ASCII text without its underscores is an ASCII text. -/
theorem IsAscii.bare {s : List Char} (ascii : IsAscii s) : IsAscii (bare s) :=
  fun c member => ascii c (List.mem_filter.1 member).1

/-- Underscores may go before or after an ASCII text is lowered. -/
theorem bare_lower {s : List Char} (ascii : IsAscii s) : bare (lower s) = lower (bare s) := by
  rw [lower_of_ascii s ascii, lower_of_ascii _ ascii.bare, bare_map_toLower ascii]

/-! ## Snake casing -/

/-- The underscores that are put into a text are all that tells it from the text. -/
theorem bare_breakWhere (test : Char → List Char → Bool) (s : List Char) :
    bare (breakWhere test s) = bare s := by
  induction s with
  | nil => rfl
  | cons c rest ih =>
    have kept : bare (c :: breakWhere test rest) = bare (c :: rest) := by
      by_cases separator : c = '_'
      · rw [separator, bare_underscore_cons, bare_underscore_cons, ih]
      · rw [bare_cons_of_ne separator, bare_cons_of_ne separator, ih]
    rw [breakWhere]
    split
    · rw [← List.singleton_append, bare_append, bare_underscore_cons, ← bare_append]
      exact kept
    · exact kept

/-- A text without underscores, hyphens and spaces. -/
def withoutSeparators (s : List Char) : List Char :=
  s.filter fun c => c != '_' && c != '-' && c != ' '

/-- Hyphens and spaces go the way of the underscores that they become. -/
theorem bare_map_toUnderscore (s : List Char) :
    bare (s.map toUnderscore) = withoutSeparators (bare s) := by
  induction s with
  | nil => rfl
  | cons c rest ih =>
    rw [List.map_cons]
    by_cases separator : c = '_'
    · rw [separator, show toUnderscore '_' = '_' from rfl, bare_underscore_cons,
        bare_underscore_cons, ih]
    · rw [bare_cons_of_ne separator, toUnderscore]
      by_cases replaced : c = '-' ∨ c = ' '
      · rw [if_pos (by simpa using replaced), bare_underscore_cons, ih]
        rcases replaced with rfl | rfl
        · exact (List.filter_cons_of_neg (by decide)).symm
        · exact (List.filter_cons_of_neg (by decide)).symm
      · rw [if_neg (by simpa using replaced), bare_cons_of_ne separator, ih]
        refine (List.filter_cons_of_pos ?_).symm
        obtain ⟨hyphen, blank⟩ := not_or.1 replaced
        simp [separator, hyphen, blank]

/-- The broken words of a text hold the text but for separators. -/
theorem bare_brokenWords (s : List Char) : bare (brokenWords s) = withoutSeparators (bare s) := by
  rw [brokenWords, bare_map_toUnderscore, breakWords_eq, bare_breakWhere, breakAcronyms_eq,
    bare_breakWhere]

/-- A body has no separators but underscores. -/
theorem withoutSeparators_bare {s : List Char} (body : IsBody s) :
    withoutSeparators (bare s) = bare s := by
  refine List.filter_eq_self.2 fun c member => ?_
  obtain ⟨there, other⟩ := List.mem_filter.1 member
  have notHyphen : c ≠ '-' := fun same => absurd (same ▸ body c there) (by decide)
  have notBlank : c ≠ ' ' := fun same => absurd (same ▸ body c there) (by decide)
  simp [notHyphen, notBlank, bne_iff_ne.1 other]

/-- With the other separators the underscores go as well. -/
theorem withoutSeparators_bare_eq (s : List Char) :
    withoutSeparators (bare s) = withoutSeparators s := by
  rw [withoutSeparators, withoutSeparators, bare, List.filter_filter]
  refine List.filter_congr fun c _ => ?_
  by_cases separator : c = '_'
  · rw [separator]
    rfl
  · rw [bne_iff_ne.2 separator, Bool.true_and, Bool.and_true]

/-- Snake casing lowers an ASCII text and moves its separators. -/
theorem bare_snake_of_ascii {s : List Char} (ascii : IsAscii s) :
    bare (snake s) = lower (withoutSeparators s) := by
  change bare (lower (brokenWords s)) = _
  rw [bare_lower ascii.brokenWords, bare_brokenWords, withoutSeparators_bare_eq]

/-- Snake casing lowers a body and moves its underscores. -/
theorem bare_snake {s : List Char} (body : IsBody s) : bare (snake s) = lower (bare s) := by
  rw [bare_snake_of_ascii body.isAscii, ← withoutSeparators_bare_eq, withoutSeparators_bare body]

/-! ## Camel casing -/

/-- The parts of a text are all of it but its underscores. -/
theorem flatten_segments (s : List Char) : (segments '_' s).flatten = bare s := by
  induction s with
  | nil => rfl
  | cons c rest ih =>
    rw [segments]
    by_cases separator : c = '_'
    · rw [if_pos separator, List.flatten_cons, List.nil_append, ih, separator,
        bare_underscore_cons]
    · rw [if_neg separator, bare_cons_of_ne separator, ← ih]
      cases parts : segments '_' rest with
      | nil => exact absurd parts (segments_ne_nil '_' rest)
      | cons head tail => rfl

/-- A capitalised text lowers as the text does. -/
theorem map_toLower_capitalize {s : List Char} (ascii : IsAscii s) :
    (capitalize s).map Char.toLower = s.map Char.toLower := by
  cases s with
  | nil => rfl
  | cons c rest =>
    have first := ascii c List.mem_cons_self
    rw [capitalize_of_ascii rest first, List.map_cons, List.map_cons, toLower_toUpper first]

/-- In small letters the camel case of a body is the body without its underscores. -/
theorem lower_camel {s : List Char} (body : IsBody s) : lower (camel s) = lower (bare s) := by
  rw [lower_of_ascii _ body.camel.isAscii, lower_of_ascii _ body.bare.isAscii, ← flatten_segments,
    camel, List.map_flatMap, List.map_flatten, List.flatMap_def]
  refine congrArg List.flatten (List.map_congr_left fun part there => ?_)
  exact map_toLower_capitalize fun c member => body.isAscii c (of_mem_segments there member).1

/-- In small letters it makes no difference whether a body is put into snake case before. -/
theorem lower_camel_snake {s : List Char} (body : IsBody s) :
    lower (camel (snake s)) = lower (bare s) := by
  rw [lower_camel body.snake, bare_snake body, lower_lower body.bare]

end GoBindings.Chars
