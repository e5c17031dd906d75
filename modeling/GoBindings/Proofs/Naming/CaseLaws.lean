import GoBindings.Naming.CaseStyle
import GoBindings.Naming.Sanitize

/-!
# Laws of bodies and case styles

Identifier bodies are ASCII, so the full case maps act on them character by character. Both case
styles cut a name at its underscores: camel casing joins the parts, snake casing keeps them apart.
Snake casing changes nothing but the case of a name unless it puts an underscore into it. These are
the facts from which the laws of the naming rules are built.
-/

namespace GoBindings.Chars

/-! ## ASCII text -/

/-- A text of ASCII characters. -/
def IsAscii (s : List Char) : Prop := ∀ c ∈ s, c.toNat < 0x80

/-- A text of ASCII letters, digits and underscores. -/
def IsBody (s : List Char) : Prop := ∀ c ∈ s, isBodyChar c = true

instance (s : List Char) : Decidable (IsBody s) := decidable_of_iff _ List.all_eq_true

/-- A property of every ASCII character, checked code point by code point. -/
theorem ascii_induction {P : Char → Prop} (check : ∀ n < 0x80, P (Char.ofNat n)) {c : Char}
    (ascii : c.toNat < 0x80) : P c := by
  have checked := check c.toNat ascii
  rwa [Char.ofNat_toNat] at checked

/-- The underscore is ASCII. -/
theorem underscore_ascii : '_'.toNat < 0x80 := by decide

/-- Body characters are ASCII. -/
theorem ascii_of_isBodyChar {c : Char} (body : isBodyChar c = true) : c.toNat < 0x80 := by
  have spelt : isBodyChar c =
      (decide ('A'.val ≤ c.val ∧ c.val ≤ 'Z'.val) ||
        (decide ('a'.val ≤ c.val) && decide (c.val ≤ 'z'.val)) ||
        (decide ('0'.val ≤ c.val) && decide (c.val ≤ '9'.val)) || c == '_') := rfl
  simp only [spelt, Bool.or_eq_true, Bool.and_eq_true, decide_eq_true_eq, beq_iff_eq,
    UInt32.le_iff_toNat_le] at body
  have code : c.toNat = c.val.toNat := rfl
  have capitalZ : 'Z'.val.toNat = 90 := rfl
  have smallZ : 'z'.val.toNat = 122 := rfl
  have nine : '9'.val.toNat = 57 := rfl
  rcases body with named | rfl
  · omega
  · exact underscore_ascii

/-- A text that passes the test of all its characters is a body. -/
theorem isBody_of_all {s : List Char} (test : s.all isBodyChar = true) : IsBody s :=
  List.all_eq_true.1 test

/-- A text that passes the test of all its characters is ASCII. -/
theorem isAscii_of_all {s : List Char} (test : s.all (fun c => c.toNat < 0x80) = true) :
    IsAscii s :=
  fun c member => of_decide_eq_true (List.all_eq_true.1 test c member)

/-- Bodies are ASCII. -/
theorem IsBody.isAscii {s : List Char} (body : IsBody s) : IsAscii s :=
  fun c member => ascii_of_isBodyChar (body c member)

/-- Two texts together are ASCII where both are. -/
theorem isAscii_append {a b : List Char} : IsAscii (a ++ b) ↔ IsAscii a ∧ IsAscii b :=
  List.forall_mem_append

/-- Two texts together are a body where both are. -/
theorem isBody_append {a b : List Char} : IsBody (a ++ b) ↔ IsBody a ∧ IsBody b :=
  List.forall_mem_append

/-- A sanitized text is a body. -/
theorem isBody_sanitize (s : List Char) : IsBody (sanitize s) :=
  fun _ member => isBodyChar_of_mem_sanitize member

/-- The small form of a body character is one. -/
theorem isBodyChar_toLower {c : Char} (body : isBodyChar c = true) :
    isBodyChar c.toLower = true :=
  ascii_induction (P := fun c => isBodyChar c = true → isBodyChar c.toLower = true)
    (by decide) (ascii_of_isBodyChar body) body

/-- The capital form of a body character is one. -/
theorem isBodyChar_toUpper {c : Char} (body : isBodyChar c = true) :
    isBodyChar c.toUpper = true :=
  ascii_induction (P := fun c => isBodyChar c = true → isBodyChar c.toUpper = true)
    (by decide) (ascii_of_isBodyChar body) body

/-- A body in small letters is a body. -/
theorem IsBody.lower {s : List Char} (body : IsBody s) : IsBody (lower s) := by
  rw [lower_of_ascii s body.isAscii]
  intro d member
  obtain ⟨c, there, rfl⟩ := List.mem_map.1 member
  exact isBodyChar_toLower (body c there)

/-- A body in capitals is a body. -/
theorem IsBody.upper {s : List Char} (body : IsBody s) : IsBody (upper s) := by
  rw [upper_of_ascii s body.isAscii]
  intro d member
  obtain ⟨c, there, rfl⟩ := List.mem_map.1 member
  exact isBodyChar_toUpper (body c there)

/-- Two ASCII texts together lower as each does. -/
theorem lower_append {a b : List Char} (left : IsAscii a) (right : IsAscii b) :
    lower (a ++ b) = lower a ++ lower b := by
  rw [lower_of_ascii _ (isAscii_append.2 ⟨left, right⟩), lower_of_ascii a left,
    lower_of_ascii b right, List.map_append]

/-- The small form of the capital form of an ASCII character is its small form. -/
theorem toLower_toUpper {c : Char} (ascii : c.toNat < 0x80) : c.toUpper.toLower = c.toLower :=
  ascii_induction (P := fun c => c.toUpper.toLower = c.toLower) (by decide) ascii

/-- The small form of an ASCII character is in small letters. -/
theorem toLower_toLower {c : Char} (ascii : c.toNat < 0x80) : c.toLower.toLower = c.toLower :=
  ascii_induction (P := fun c => c.toLower.toLower = c.toLower) (by decide) ascii

/-- A body in capitals lowers as the body does. -/
theorem lower_upper {s : List Char} (body : IsBody s) : lower (upper s) = lower s := by
  rw [lower_of_ascii _ body.upper.isAscii, upper_of_ascii s body.isAscii,
    lower_of_ascii s body.isAscii, List.map_map]
  exact List.map_congr_left fun c member => toLower_toUpper (body.isAscii c member)

/-- Lowering a body once is enough. -/
theorem lower_lower {s : List Char} (body : IsBody s) : lower (lower s) = lower s := by
  rw [lower_of_ascii _ body.lower.isAscii, lower_of_ascii s body.isAscii, List.map_map]
  exact List.map_congr_left fun c member => toLower_toLower (body.isAscii c member)

/-! ## Underscores -/

/-- Lowering keeps a character that is its own small form, whatever stands around it. -/
theorem mem_lowerAfter (before : List Char) {c : Char} (ascii : c.toNat < 0x80)
    (small : c.toLower = c) {s : List Char} (member : c ∈ s) : c ∈ lowerAfter before s := by
  induction s generalizing before with
  | nil => exact absurd member List.not_mem_nil
  | cons d rest ih =>
    rw [lowerAfter, List.mem_append]
    rcases List.mem_cons.1 member with rfl | later
    · have notSigma : c ≠ 'Σ' := by
        rintro rfl
        exact absurd ascii (by decide)
      rw [if_neg notSigma, Unicode.lowerChar_of_ascii c ascii, small]
      exact Or.inl List.mem_cons_self
    · exact Or.inr (ih _ later)

/-- Lowering keeps a character that is its own small form. -/
theorem mem_lower {c : Char} (ascii : c.toNat < 0x80) (small : c.toLower = c) {s : List Char}
    (member : c ∈ s) : c ∈ lower s :=
  mem_lowerAfter [] ascii small member

/-- Lowering keeps underscores. -/
theorem underscore_mem_lower {s : List Char} (member : '_' ∈ s) : '_' ∈ lower s :=
  mem_lower underscore_ascii rfl member

/-- Capitals keep underscores. -/
theorem underscore_mem_upper {s : List Char} (member : '_' ∈ s) : '_' ∈ upper s :=
  List.mem_flatMap.2 ⟨'_', member, List.mem_cons_self⟩

/-- Dropping empty brackets keeps underscores. -/
theorem underscore_mem_dropEmptyBrackets {s : List Char} (member : '_' ∈ s) :
    '_' ∈ dropEmptyBrackets s := by
  fun_induction dropEmptyBrackets s with
  | case1 rest ih => exact ih (by simpa using member)
  | case2 c rest _ ih =>
    rcases List.mem_cons.1 member with rfl | later
    · exact List.mem_cons_self
    · exact List.mem_cons_of_mem c (ih later)
  | case3 => exact absurd member List.not_mem_nil

/-- Sanitizing keeps underscores. -/
theorem underscore_mem_sanitize {s : List Char} (member : '_' ∈ s) : '_' ∈ sanitize s := by
  rw [sanitize_eq]
  exact List.mem_flatMap.2 ⟨'_', underscore_mem_dropEmptyBrackets member, List.mem_cons_self⟩

/-! ## Texts side by side -/

/-- The last character of what stands behind a character is that of both. -/
theorem getLast?_cons_ne {c d : Char} {s : List Char} (other : (c :: s).getLast? ≠ some d) :
    s.getLast? ≠ some d := by
  cases s with
  | nil => simp
  | cons e rest => rwa [List.getLast?_cons_cons] at other

/-- Texts side by side lose their empty brackets each on its own, unless a bracket that ends the
first is closed by one that begins the second: any other pair lies inside one of the texts. -/
theorem dropEmptyBrackets_append_of_apart {a b : List Char}
    (apart : a.getLast? ≠ some '[' ∨ b.head? ≠ some ']') :
    dropEmptyBrackets (a ++ b) = dropEmptyBrackets a ++ dropEmptyBrackets b := by
  fun_induction dropEmptyBrackets a with
  | case1 rest ih =>
    rw [List.cons_append, List.cons_append, dropEmptyBrackets]
    exact ih (apart.imp_left fun other => getLast?_cons_ne (getLast?_cons_ne other))
  | case2 c rest unopened ih =>
    rw [List.cons_append, dropEmptyBrackets, ih (apart.imp_left getLast?_cons_ne), List.cons_append]
    intro tail opens closes
    cases rest with
    | nil =>
      rcases apart with last | next
      · exact last (congrArg some opens)
      · exact next (congrArg List.head? closes)
    | cons d more =>
      obtain ⟨second, -⟩ := List.cons.inj closes
      exact unopened more opens (by rw [second])
  | case3 => rfl

/-- Texts side by side are sanitized each on its own, unless a bracket that ends the first is closed
by one that begins the second. -/
theorem sanitize_append_of_apart {a b : List Char}
    (apart : a.getLast? ≠ some '[' ∨ b.head? ≠ some ']') :
    sanitize (a ++ b) = sanitize a ++ sanitize b := by
  rw [sanitize_eq, sanitize_eq, sanitize_eq, dropEmptyBrackets_append_of_apart apart,
    List.flatMap_append]

/-! ## Word boundaries

Both kinds of word boundary are found the same way: an underscore goes after every character where
a test of that character and of what follows it holds. -/

/-- A text with an underscore after every character at which a test holds. -/
def breakWhere (test : Char → List Char → Bool) : List Char → List Char
  | [] => []
  | c :: rest =>
    if test c rest then c :: '_' :: breakWhere test rest else c :: breakWhere test rest

/-- Whether an acronym ends and a capitalised word begins. -/
def endsAcronym (c : Char) (rest : List Char) : Bool := c.isUpper && startsWord rest

/-- Whether a word ends and another one begins. -/
def endsWord (c : Char) (rest : List Char) : Bool :=
  (c.isLower || Unicode.isDecimalDigit c) && startsCapital rest

/-- Acronyms are broken where one ends. -/
theorem breakAcronyms_eq (s : List Char) : breakAcronyms s = breakWhere endsAcronym s := by
  induction s with
  | nil => rfl
  | cons c rest ih => rw [breakAcronyms, breakWhere, ih, endsAcronym]

/-- Words are broken where one ends. -/
theorem breakWords_eq (s : List Char) : breakWords s = breakWhere endsWord s := by
  induction s with
  | nil => rfl
  | cons c rest ih => rw [breakWords, breakWhere, ih, endsWord]

section BreakWhere

variable {test : Char → List Char → Bool}

/-- Breaking keeps every character. -/
theorem mem_breakWhere {c : Char} {s : List Char} (member : c ∈ s) : c ∈ breakWhere test s := by
  induction s with
  | nil => exact absurd member List.not_mem_nil
  | cons d rest ih =>
    rw [breakWhere]
    rcases List.mem_cons.1 member with rfl | later
    · split <;> exact List.mem_cons_self
    · split
      · exact List.mem_cons_of_mem d (List.mem_cons_of_mem '_' (ih later))
      · exact List.mem_cons_of_mem d (ih later)

/-- Breaking adds nothing but underscores. -/
theorem of_mem_breakWhere {c : Char} {s : List Char} (member : c ∈ breakWhere test s) :
    c ∈ s ∨ c = '_' := by
  induction s with
  | nil => exact absurd member List.not_mem_nil
  | cons d rest ih =>
    rw [breakWhere] at member
    split at member
    · rcases List.mem_cons.1 member with rfl | later
      · exact Or.inl List.mem_cons_self
      · rcases List.mem_cons.1 later with rfl | later
        · exact Or.inr rfl
        · exact (ih later).imp_left (List.mem_cons_of_mem d)
    · rcases List.mem_cons.1 member with rfl | later
      · exact Or.inl List.mem_cons_self
      · exact (ih later).imp_left (List.mem_cons_of_mem d)

/-- A text that is broken nowhere is left alone. -/
theorem breakWhere_of_not_mem {s : List Char} (unbroken : '_' ∉ breakWhere test s) :
    breakWhere test s = s := by
  induction s with
  | nil => rfl
  | cons c rest ih =>
    rw [breakWhere] at unbroken ⊢
    split at unbroken
    · exact absurd (List.mem_cons_of_mem c List.mem_cons_self) unbroken
    · rename_i kept
      rw [if_neg kept, ih fun member => unbroken (List.mem_cons_of_mem c member)]

/-- A test that neither looks beyond an underscore nor holds at one breaks what stands before and
after an underscore on its own. -/
theorem breakWhere_append_underscore
    (blind : ∀ c rest tail, test c (rest ++ '_' :: tail) = test c rest)
    (quiet : ∀ rest, test '_' rest = false) (a b : List Char) :
    breakWhere test (a ++ '_' :: b) = breakWhere test a ++ '_' :: breakWhere test b := by
  induction a with
  | nil => simp [breakWhere, quiet]
  | cons c rest ih =>
    simp only [List.cons_append, breakWhere, blind, ih]
    split <;> rfl

end BreakWhere

/-- No capitalised word reaches beyond an underscore. -/
theorem startsWord_append_underscore (s tail : List Char) :
    startsWord (s ++ '_' :: tail) = startsWord s := by
  match s with
  | [] => cases tail with
    | nil => rfl
    | cons a rest => cases rest <;> simp [startsWord]
  | [a] => cases tail <;> simp [startsWord]
  | [a, b] => simp [startsWord]
  | a :: b :: c :: rest => rfl

/-- No capital is found beyond an underscore. -/
theorem startsCapital_append_underscore (s tail : List Char) :
    startsCapital (s ++ '_' :: tail) = startsCapital s := by
  cases s with
  | nil => rfl
  | cons c rest => rfl

/-- Acronyms on the two sides of an underscore are broken apart. -/
theorem breakAcronyms_append_underscore (a b : List Char) :
    breakAcronyms (a ++ '_' :: b) = breakAcronyms a ++ '_' :: breakAcronyms b := by
  simp only [breakAcronyms_eq]
  refine breakWhere_append_underscore (fun c rest tail => ?_) (fun rest => ?_) a b
  · rw [endsAcronym, endsAcronym, startsWord_append_underscore]
  · rw [endsAcronym, show '_'.isUpper = false from rfl, Bool.false_and]

/-- Words on the two sides of an underscore are broken apart. -/
theorem breakWords_append_underscore (a b : List Char) :
    breakWords (a ++ '_' :: b) = breakWords a ++ '_' :: breakWords b := by
  simp only [breakWords_eq]
  refine breakWhere_append_underscore (fun c rest tail => ?_) (fun rest => ?_) a b
  · rw [endsWord, endsWord, startsCapital_append_underscore]
  · rw [endsWord, show ('_'.isLower || Unicode.isDecimalDigit '_') = false from rfl,
      Bool.false_and]

/-! ## Snake casing -/

/-- The snake case of a name before it is lowered. -/
def brokenWords (s : List Char) : List Char := (breakWords (breakAcronyms s)).map toUnderscore

/-- The broken words of a text hold its characters, underscores for hyphens and spaces. -/
theorem of_mem_brokenWords {c : Char} {s : List Char} (member : c ∈ brokenWords s) :
    c ∈ s ∨ c = '_' := by
  obtain ⟨d, broken, rfl⟩ := List.mem_map.1 member
  rw [breakWords_eq, breakAcronyms_eq] at broken
  have origin : d ∈ s ∨ d = '_' := (of_mem_breakWhere broken).elim of_mem_breakWhere Or.inr
  rw [toUnderscore]
  split
  · exact Or.inr rfl
  · exact origin

/-- The broken words of an ASCII text are ASCII. -/
theorem IsAscii.brokenWords {s : List Char} (ascii : IsAscii s) : IsAscii (brokenWords s) := by
  intro c member
  rcases of_mem_brokenWords member with there | rfl
  · exact ascii c there
  · exact underscore_ascii

/-- The snake case of an ASCII text is lowered character by character. -/
theorem snake_of_ascii {s : List Char} (ascii : IsAscii s) :
    snake s = (brokenWords s).map Char.toLower :=
  lower_of_ascii _ ascii.brokenWords

/-- The broken words of a body are a body. -/
theorem IsBody.brokenWords {s : List Char} (body : IsBody s) : IsBody (brokenWords s) := by
  intro c member
  rcases of_mem_brokenWords member with there | rfl
  · exact body c there
  · rfl

/-- The snake case of a body is a body. -/
theorem IsBody.snake {s : List Char} (body : IsBody s) : IsBody (snake s) :=
  body.brokenWords.lower

/-- Snake casing keeps underscores. -/
theorem underscore_mem_snake {s : List Char} (member : '_' ∈ s) : '_' ∈ snake s := by
  have broken : '_' ∈ breakWords (breakAcronyms s) := by
    rw [breakWords_eq, breakAcronyms_eq]
    exact mem_breakWhere (mem_breakWhere member)
  exact underscore_mem_lower (List.mem_map.2 ⟨'_', broken, rfl⟩)

/-- The words on the two sides of an underscore are broken apart. -/
theorem brokenWords_append_underscore (a b : List Char) :
    brokenWords (a ++ '_' :: b) = brokenWords a ++ '_' :: brokenWords b := by
  rw [brokenWords, breakAcronyms_append_underscore, breakWords_append_underscore, List.map_append,
    List.map_cons, show toUnderscore '_' = '_' from rfl]
  rfl

/-- Names joined by an underscore have their snake cases joined by it. -/
theorem snake_append_underscore {a b : List Char} (left : IsAscii a) (right : IsAscii b) :
    snake (a ++ '_' :: b) = snake a ++ '_' :: snake b := by
  have underscored : IsAscii ('_' :: brokenWords b) := by
    intro c member
    rcases List.mem_cons.1 member with rfl | later
    · exact underscore_ascii
    · exact right.brokenWords c later
  have tail : lower ('_' :: brokenWords b) = '_' :: lower (brokenWords b) := by
    rw [lower_of_ascii _ underscored, lower_of_ascii _ right.brokenWords]
    rfl
  calc snake (a ++ '_' :: b)
    _ = lower (brokenWords a ++ '_' :: brokenWords b) := by
        rw [← brokenWords_append_underscore]
        rfl
    _ = lower (brokenWords a) ++ lower ('_' :: brokenWords b) :=
        lower_append left.brokenWords underscored
    _ = snake a ++ '_' :: snake b := by
        rw [tail]
        rfl

/-- A name whose snake case has no underscore is only lowered. -/
theorem snake_of_not_mem {s : List Char} (unbroken : '_' ∉ snake s) : snake s = lower s := by
  have mapped : '_' ∉ brokenWords s := fun member => unbroken (underscore_mem_lower member)
  have same : ∀ c ∈ breakWords (breakAcronyms s), toUnderscore c = c := by
    intro c member
    rw [toUnderscore]
    split
    · rename_i separator
      refine absurd (List.mem_map.2 ⟨c, member, ?_⟩) mapped
      rw [toUnderscore, if_pos separator]
    · rfl
  have words : brokenWords s = breakWords (breakAcronyms s) :=
    (List.map_congr_left same).trans (List.map_id _)
  rw [words] at mapped
  have acronyms : breakWords (breakAcronyms s) = breakAcronyms s := by
    rw [breakWords_eq] at mapped ⊢
    exact breakWhere_of_not_mem mapped
  rw [acronyms] at mapped
  have whole : breakAcronyms s = s := by
    rw [breakAcronyms_eq] at mapped ⊢
    exact breakWhere_of_not_mem mapped
  change lower (brokenWords s) = lower s
  rw [words, acronyms, whole]

/-! ## Camel casing -/

/-- A text is cut at an underscore into the parts before and after it. -/
theorem segments_append (separator : Char) (a b : List Char) :
    segments separator (a ++ separator :: b) = segments separator a ++ segments separator b := by
  induction a with
  | nil => simp [segments]
  | cons c rest ih =>
    simp only [List.cons_append, segments, ih]
    split
    · rfl
    · cases parts : segments separator rest with
      | nil => exact absurd parts (segments_ne_nil separator rest)
      | cons head tail => rfl

/-- A text without the separator is one segment. -/
theorem segments_of_not_mem {separator : Char} {s : List Char} (clean : separator ∉ s) :
    segments separator s = [s] := by
  induction s with
  | nil => rfl
  | cons c rest ih =>
    obtain ⟨other, later⟩ := not_or.1 (mt List.mem_cons.2 clean)
    rw [segments, if_neg (Ne.symm other), ih later]

/-- No segment holds the separator, and every character of a segment stands in the text. -/
theorem of_mem_segments {separator c : Char} {s part : List Char}
    (there : part ∈ segments separator s) (member : c ∈ part) : c ∈ s ∧ c ≠ separator := by
  induction s generalizing part with
  | nil =>
    simp only [segments, List.mem_singleton] at there
    exact absurd (there ▸ member) List.not_mem_nil
  | cons d rest ih =>
    rw [segments] at there
    split at there
    · rcases List.mem_cons.1 there with rfl | later
      · exact absurd member List.not_mem_nil
      · exact (ih later member).imp_left (List.mem_cons_of_mem d)
    · rename_i other
      cases parts : segments separator rest with
      | nil => exact absurd parts (segments_ne_nil separator rest)
      | cons head tail =>
        rw [parts] at there ih
        rcases List.mem_cons.1 there with rfl | later
        · rcases List.mem_cons.1 member with rfl | inner
          · exact ⟨List.mem_cons_self, other⟩
          · exact (ih List.mem_cons_self inner).imp_left (List.mem_cons_of_mem d)
        · exact (ih (List.mem_cons_of_mem head later) member).imp_left (List.mem_cons_of_mem d)

/-- Names joined by an underscore have their camel cases joined by nothing. -/
theorem camel_append_underscore (a b : List Char) :
    camel (a ++ '_' :: b) = camel a ++ camel b := by
  rw [camel, segments_append, List.flatMap_append]
  rfl

/-- An ASCII text is capitalised at its first character. -/
theorem capitalize_of_ascii {c : Char} (rest : List Char) (ascii : c.toNat < 0x80) :
    capitalize (c :: rest) = c.toUpper :: rest := by
  rw [capitalize, Unicode.upperChar_of_ascii c ascii]
  rfl

/-- An ASCII text gets a small first character. -/
theorem uncapitalize_of_ascii {c : Char} (rest : List Char) (ascii : c.toNat < 0x80) :
    uncapitalize (c :: rest) = c.toLower :: rest := by
  have first : lower [c] = [c.toLower] :=
    lower_of_ascii [c] fun d member => (List.mem_singleton.1 member).symm ▸ ascii
  rw [uncapitalize, first]
  rfl

/-- The camel case of a body is a body. -/
theorem IsBody.camel {s : List Char} (body : IsBody s) : IsBody (camel s) := by
  intro c member
  obtain ⟨part, there, inner⟩ := List.mem_flatMap.1 member
  cases part with
  | nil => exact absurd inner List.not_mem_nil
  | cons head rest =>
    have bodyHead : isBodyChar head = true :=
      body head (of_mem_segments there List.mem_cons_self).1
    rw [capitalize_of_ascii rest (ascii_of_isBodyChar bodyHead)] at inner
    rcases List.mem_cons.1 inner with rfl | later
    · exact isBodyChar_toUpper bodyHead
    · exact body c (of_mem_segments there (List.mem_cons_of_mem head later)).1

end GoBindings.Chars
