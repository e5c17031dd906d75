import GoBindings.Proofs.Naming.StableTypes

/-!
# Affixes that stand already

A configured affix is put around the name of a model unless the name, in snake case, has it already.
The type name of a model holds its affixes without underscores, so whether they are found in it
depends on where its words end. The main statement says for which names they are: those in which
camel case tells the affix and its neighbour apart, and in which the start of a correction does not
stand before that of the settings.
-/

namespace GoBindings

open ReservedWords (plain)

namespace Chars

/-! ## Words at both ends -/

/-- Parts that begin with some words, which camel case keeps apart from one another and from what
follows. -/
def KeepsStart (start ps : List (List Char)) : Prop :=
  ∃ next rest, ps = start ++ next :: rest ∧ (start ++ [next]).IsChain StaysApart

/-- Parts that end with some words, which camel case keeps apart from one another and from what
stands before them. -/
def KeepsEnding (ending ps : List (List Char)) : Prop :=
  ∃ rest last, ps = rest ++ last :: ending ∧ (last :: ending).IsChain StaysApart

/-- A part that is a word of its own stands apart from what follows: joined with it, the word is
longer. -/
theorem apart_of_regroup_cons {part : List Char} {ps words : List (List Char)}
    (nonempty : ∀ p ∈ ps, p ≠ []) (same : regroup (part :: ps) = part :: words) :
    (∀ next ∈ ps.head?, StaysApart part next) ∧ regroup ps = words := by
  cases ps with
  | nil => exact ⟨by simp, (List.cons.inj same).2⟩
  | cons next rest =>
    by_cases apart : StaysApart part next
    · rw [regroup, if_pos apart] at same
      exact ⟨by simpa using apart, (List.cons.inj same).2⟩
    · obtain ⟨more, others, first⟩ := exists_regroup_cons next rest
      rw [regroup, if_neg apart, first, glue] at same
      have joined : next ++ more = [] := List.append_right_eq_self.1 (List.cons.inj same).1
      exact absurd (List.append_eq_nil_iff.1 joined).1 (nonempty next List.mem_cons_self)

/-- What a start is followed by, as its neighbour sees it. -/
theorem head?_append_cons (start : List (List Char)) (next : List Char)
    (rest : List (List Char)) : (start ++ next :: rest).head? = (start ++ [next]).head? := by
  cases start <;> rfl

/-- Words that are kept apart at the start are the first words. -/
theorem KeepsStart.regroup_eq {start ps : List (List Char)} (keeps : KeepsStart start ps) :
    ∃ more, more ≠ [] ∧ regroup ps = start ++ more := by
  obtain ⟨next, rest, rfl, apart⟩ := keeps
  have some : regroup (next :: rest) ≠ [] := by
    obtain ⟨more, words, first⟩ := exists_regroup_cons next rest
    rw [first]
    exact List.cons_ne_nil _ _
  refine ⟨regroup (next :: rest), some, ?_⟩
  induction start with
  | nil => rfl
  | cons part start ih =>
    rw [List.cons_append, List.isChain_cons, ← head?_append_cons start next rest] at apart
    rw [List.cons_append, regroup_cons_of_apart apart.1, ih apart.2, List.cons_append]

/-- Where the parts begin with some words, these are the first words only if they are kept apart. -/
theorem keepsStart_of_regroup {start rest more : List (List Char)}
    (nonempty : ∀ p ∈ start ++ rest, p ≠ []) (some : more ≠ [])
    (same : regroup (start ++ rest) = start ++ more) : KeepsStart start (start ++ rest) := by
  induction start with
  | nil =>
    cases rest with
    | nil => exact absurd same.symm some
    | cons next rest => exact ⟨next, rest, rfl, .singleton next⟩
  | cons part start ih =>
    obtain ⟨-, later⟩ := List.forall_mem_cons.1 nonempty
    obtain ⟨neighbour, behind⟩ := apart_of_regroup_cons later same
    obtain ⟨next, tail, spelt, apart⟩ := ih later behind
    change ∀ other ∈ (start ++ rest).head?, StaysApart part other at neighbour
    refine ⟨next, tail, congrArg (part :: ·) spelt, ?_⟩
    rw [List.cons_append, List.isChain_cons, ← head?_append_cons start next tail, ← spelt]
    exact ⟨neighbour, apart⟩

/-- The same where one more word stands before them that stays apart from itself: they repeat it, as
the word joined with the first part is longer than that part. -/
theorem keepsStart_of_regroup_cons {word : List Char} {start rest more : List (List Char)}
    (twice : StaysApart word word) (nonempty : ∀ p ∈ word :: (start ++ rest), p ≠ [])
    (same : regroup (word :: (start ++ rest)) = start ++ more) :
    KeepsStart start (word :: (start ++ rest)) := by
  induction start with
  | nil => exact ⟨word, rest, rfl, .singleton word⟩
  | cons part start ih =>
    obtain ⟨here, later⟩ := List.forall_mem_cons.1 nonempty
    have repeated : part = word := by
      obtain ⟨tail, words, first⟩ := exists_regroup_cons part (start ++ rest)
      rcases regroup_cons word (part :: (start ++ rest)) with alone | ⟨head, others, begun, joined⟩
      · exact (List.cons.inj (alone.symm.trans same)).1.symm
      · have longer : word ++ head = part := (List.cons.inj (joined.symm.trans same)).1
        have begins : head = part ++ tail := (List.cons.inj (begun.symm.trans first)).1
        have lengths := congrArg List.length longer
        have positive := List.length_pos_iff.2 here
        rw [begins, List.length_append, List.length_append] at lengths
        omega
    subst repeated
    obtain ⟨-, behind⟩ := apart_of_regroup_cons later same
    obtain ⟨next, tail, spelt, apart⟩ := ih later behind
    refine ⟨next, tail, congrArg (part :: ·) spelt, ?_⟩
    rw [List.cons_append, List.isChain_cons, ← head?_append_cons start next tail, ← spelt]
    exact ⟨by simpa using twice, apart⟩

/-- Words that are kept apart at the end are the last words. -/
theorem KeepsEnding.regroup_eq {ending ps : List (List Char)} (keeps : KeepsEnding ending ps) :
    ∃ before, before ≠ [] ∧ regroup ps = before ++ ending := by
  obtain ⟨rest, last, rfl, apart⟩ := keeps
  induction rest with
  | nil => exact ⟨[last], List.cons_ne_nil _ _, regroup_of_isChain apart⟩
  | cons part rest ih =>
    obtain ⟨before, some, behind⟩ := ih
    rw [List.cons_append]
    rcases regroup_cons part (rest ++ last :: ending) with alone | ⟨word, words, first, joined⟩
    · exact ⟨part :: before, List.cons_ne_nil _ _, by rw [alone, behind]; rfl⟩
    · cases before with
      | nil => exact absurd rfl some
      | cons head before =>
        obtain ⟨-, others⟩ := List.cons.inj (first.symm.trans behind)
        exact ⟨(part ++ word) :: before, List.cons_ne_nil _ _, by rw [joined, others]; rfl⟩

/-- Words that are not empty have letters unless there are none. -/
theorem flatten_eq_nil_iff {words : List (List Char)} (nonempty : ∀ word ∈ words, word ≠ []) :
    words.flatten = [] ↔ words = [] := by
  refine ⟨fun empty => ?_, fun none => by rw [none]; rfl⟩
  have each := List.flatten_eq_nil_iff.1 empty
  cases words with
  | nil => rfl
  | cons word others =>
    exact absurd (each word List.mem_cons_self) (nonempty word List.mem_cons_self)

/-- Parts before an ending that stays give some words, and no parts give none. -/
theorem eq_nil_iff_of_regroup {ending rest before : List (List Char)}
    (nonempty : ∀ p ∈ rest ++ ending, p ≠ [])
    (same : regroup (rest ++ ending) = before ++ ending) : before = [] ↔ rest = [] := by
  have words := nonempty_of_mem_regroup nonempty
  have letters := congrArg List.flatten same
  rw [flatten_regroup, List.flatten_append, List.flatten_append, List.append_left_inj] at letters
  rw [same] at words
  rw [← flatten_eq_nil_iff fun word member => words word (List.mem_append_left _ member), ← letters]
  exact flatten_eq_nil_iff fun part member => nonempty part (List.mem_append_left _ member)

/-- Where the parts end with some words, these are the last words only if they are kept apart. A
part right before the ending is a word as it is, and then so are all that follow. -/
theorem keepsEnding_of_regroup {ending rest before : List (List Char)}
    (nonempty : ∀ p ∈ rest ++ ending, p ≠ []) (some : before ≠ [])
    (same : regroup (rest ++ ending) = before ++ ending) : KeepsEnding ending (rest ++ ending) := by
  induction rest generalizing before with
  | nil => exact absurd ((eq_nil_iff_of_regroup nonempty same).2 rfl) some
  | cons part rest ih =>
    have later := (List.forall_mem_cons.1 nonempty).2
    have further {words : List (List Char)} (none : words ≠ [])
        (behind : regroup (rest ++ ending) = words ++ ending) :
        KeepsEnding ending (part :: (rest ++ ending)) := by
      obtain ⟨first, last, spelt, apart⟩ := ih later none behind
      exact ⟨part :: first, last, congrArg (part :: ·) spelt, apart⟩
    cases before with
    | nil => exact absurd rfl some
    | cons head before =>
      rcases regroup_cons part (rest ++ ending) with alone | ⟨word, others, first, joined⟩
      · obtain ⟨begins, behind⟩ := List.cons.inj (alone.symm.trans same)
        by_cases none : before = []
        · have nothing := (eq_nil_iff_of_regroup later behind).1 none
          subst none nothing
          have apart := isChain_regroup nonempty
          rw [same] at apart
          exact ⟨[], _, by rw [begins]; rfl, apart⟩
        · exact further none behind
      · obtain ⟨-, behind⟩ := List.cons.inj (joined.symm.trans same)
        exact further (List.cons_ne_nil word before) (by rw [first, behind]; rfl)

/-! ## Segments at both ends -/

/-- Segments side by side are joined by the separator. -/
theorem joinSegments_append (separator : Char) {a b : List (List Char)} (left : a ≠ [])
    (right : b ≠ []) : joinSegments separator (a ++ b) =
      joinSegments separator a ++ separator :: joinSegments separator b := by
  induction a with
  | nil => exact absurd rfl left
  | cons head rest ih =>
    cases rest with
    | nil =>
      cases b with
      | nil => exact absurd rfl right
      | cons next tail => rfl
    | cons next tail =>
      have later := ih (List.cons_ne_nil next tail)
      rw [List.cons_append] at later
      rw [List.cons_append, List.cons_append, joinSegments, later, joinSegments, List.append_assoc]
      rfl

/-- A text begins with another and the separator where it has the segments of that and more. -/
theorem prefix_iff_segments (separator : Char) (start s : List Char) :
    start ++ [separator] <+: s ↔
      ∃ more, more ≠ [] ∧ segments separator s = segments separator start ++ more := by
  constructor
  · rintro ⟨rest, rfl⟩
    refine ⟨segments separator rest, segments_ne_nil separator rest, ?_⟩
    rw [List.append_assoc, List.singleton_append, segments_append]
  · rintro ⟨more, some, same⟩
    refine ⟨joinSegments separator more, ?_⟩
    rw [← joinSegments_segments separator s, same,
      joinSegments_append separator (segments_ne_nil separator start) some,
      joinSegments_segments, List.append_assoc, List.singleton_append]

/-- A text ends with the separator and another where it has the segments of that and more. -/
theorem suffix_iff_segments (separator : Char) (ending s : List Char) :
    separator :: ending <:+ s ↔
      ∃ before, before ≠ [] ∧ segments separator s = before ++ segments separator ending := by
  constructor
  · rintro ⟨rest, rfl⟩
    exact ⟨segments separator rest, segments_ne_nil separator rest, segments_append ..⟩
  · rintro ⟨before, some, same⟩
    refine ⟨joinSegments separator before, ?_⟩
    rw [← joinSegments_segments separator s, same,
      joinSegments_append separator some (segments_ne_nil separator ending),
      joinSegments_segments]

/-- Segments that are not empty are the parts. -/
theorem parts_eq_segments {s : List Char} (nonempty : ∀ part ∈ segments '_' s, part ≠ []) :
    parts s = segments '_' s := by
  refine List.filter_eq_self.2 fun part member => ?_
  simpa using nonempty part member

end Chars

/-! ## Affixes put around a name -/

/-- The words of an affix in snake case. -/
def affixWords (affix : String) : List (List Char) := Chars.segments '_' (snakeBody affix).toList

/-- An affix and a name are put into snake case each on its own. -/
theorem snakeBody_append_underscore (a b : String) :
    snakeBody (a ++ "_" ++ b) = snakeBody a ++ "_" ++ snakeBody b := by
  have separator : ['_'] = Chars.sanitize ['_'] := rfl
  have joined : Chars.sanitize (a.toList ++ '_' :: b.toList) =
      Chars.sanitize a.toList ++ '_' :: Chars.sanitize b.toList := by
    rw [Chars.sanitize_append_of_apart (.inr (by simp)), ← List.singleton_append,
      Chars.sanitize_append_of_apart (.inl (by simp)), ← separator, List.singleton_append]
  apply String.toList_inj.1
  simp only [snakeBody, toList_snake, toList_sanitize, String.toList_append]
  rw [show "_".toList = ['_'] from rfl, List.append_assoc, List.singleton_append, joined,
    Chars.snake_append_underscore (Chars.isBody_sanitize _).isAscii
      (Chars.isBody_sanitize _).isAscii, List.append_assoc, List.singleton_append]

/-- A name to which a start is given has it. -/
theorem startsWith_snakeBody_withStart {start : String} (given : start ≠ "") (name : String) :
    Text.startsWith (snakeBody start ++ "_")
      (snakeBody (withStart start (snakeBody name) name)) = true := by
  rw [withStart]
  split
  · rename_i already
    exact (Bool.or_eq_true_iff.1 already).resolve_left fun empty =>
      given (String.isEmpty_iff.1 empty)
  · rw [snakeBody_append_underscore, Text.startsWith_iff]
    exact prefix_toList_append _ _

/-- A name keeps its start behind which an ending is put. -/
theorem startsWith_snakeBody_withEnding {start name : String}
    (begins : Text.startsWith start (snakeBody name) = true) (ending shown : String) :
    Text.startsWith start (snakeBody (withEnding ending shown name)) = true := by
  rw [Text.startsWith_iff] at begins ⊢
  rw [withEnding]
  split
  · exact begins
  · rw [snakeBody_append_underscore, String.append_assoc]
    exact begins.trans (prefix_toList_append _ _)

/-- A name keeps its ending before which a start is put. -/
theorem endsWith_snakeBody_withStart {ending name : String}
    (ends : Text.endsWith ending (snakeBody name) = true) (start shown : String) :
    Text.endsWith ending (snakeBody (withStart start shown name)) = true := by
  rw [Text.endsWith_iff] at ends ⊢
  rw [withStart]
  split
  · exact ends
  · rw [snakeBody_append_underscore]
    exact ends.trans (suffix_toList_append _ _)

/-- A name with the configured affixes begins with the start, if there is one. -/
theorem startsWith_snakeBody_applyAffixes {settings : Settings}
    (given : settings.modelNamePrefix.content ≠ "") (name : String) :
    Text.startsWith (snakeBody settings.modelNamePrefix.content ++ "_")
      (snakeBody (applyAffixes settings name)) = true :=
  startsWith_snakeBody_withEnding (startsWith_snakeBody_withStart given name) _ _

/-- A name with the configured affixes ends with the ending, if there is one. -/
theorem endsWith_snakeBody_applyAffixes {settings : Settings}
    (given : settings.modelNameSuffix.content ≠ "") (name : String) :
    Text.endsWith ("_" ++ snakeBody settings.modelNameSuffix.content)
      (snakeBody (applyAffixes settings name)) = true := by
  rw [applyAffixes, withEnding]
  split
  · rename_i already
    refine endsWith_snakeBody_withStart ?_ _ _
    exact (Bool.or_eq_true_iff.1 already).resolve_left fun empty =>
      given (String.isEmpty_iff.1 empty)
  · rw [snakeBody_append_underscore, String.append_assoc, Text.endsWith_iff]
    exact suffix_toList_append _ _

/-- Nothing is put around a name exactly where it begins and ends with the affixes: an affix that is
put to the name makes it longer. -/
theorem applyAffixes_eq_self_iff (settings : Settings) (name : String) :
    applyAffixes settings name = name ↔
      (settings.modelNamePrefix.content ≠ "" →
        Text.startsWith (snakeBody settings.modelNamePrefix.content ++ "_")
          (snakeBody name) = true) ∧
      (settings.modelNameSuffix.content ≠ "" →
        Text.endsWith ("_" ++ snakeBody settings.modelNameSuffix.content)
          (snakeBody name) = true) := by
  have either (affix : String) (has : Bool) :
      (affix.isEmpty || has) = true ↔ (affix ≠ "" → has = true) := by
    rw [Bool.or_eq_true_iff, String.isEmpty_iff, or_iff_not_imp_left]
  rw [← either, ← either, applyAffixes, withEnding, withStart]
  constructor
  · intro same
    have lengths := congrArg String.length same
    have separator : "_".length = 1 := rfl
    split at lengths
    · rename_i ending
      split at lengths
      · rename_i start
        exact ⟨start, ending⟩
      · simp only [String.length_append, separator] at lengths
        omega
    · split at lengths <;> simp only [String.length_append, separator] at lengths <;> omega
  · rintro ⟨start, ending⟩
    rw [if_pos start, if_pos ending]

/-! ## Affixes found again -/

/-- The parts of the name of a model are those of its text, or `model` stands before them. -/
theorem parts_snakeModelName (reserved : ReservedWords) (raw : String) :
    Chars.parts (snakeModelName reserved raw).name.toList = Chars.parts (snakeBody raw).toList ∨
      Chars.parts (snakeModelName reserved raw).name.toList =
        ['m', 'o', 'd', 'e', 'l'] :: Chars.parts (snakeBody raw).toList := by
  have start : modelStart.toList = ['m', 'o', 'd', 'e', 'l'] ++ ['_'] := rfl
  have word : Chars.parts ['m', 'o', 'd', 'e', 'l'] = [['m', 'o', 'd', 'e', 'l']] := by decide
  rw [name_snakeModelName]
  split
  · refine .inr ?_
    rw [snake_modelStart_append (isBody_sanitized raw), String.toList_append, start,
      List.append_assoc, List.singleton_append, Chars.parts_append_underscore, word, snakeBody,
      List.singleton_append]
  · exact .inl rfl

/-- The type name of a model put into snake case has the words of the name of the model. -/
theorem segments_snakeBody_camel (reserved : ReservedWords) (raw : String) :
    Chars.segments '_' (snakeBody (camel (snakeModelName reserved raw).name)).toList =
      Chars.regroup (Chars.parts (snakeModelName reserved raw).name.toList) := by
  have type : IsTypeName (camel (snakeModelName reserved raw).name) :=
    isTypeName_snakeModelName reserved raw
  have nonempty : Chars.camel (snakeModelName reserved raw).name.toList ≠ [] := by
    obtain ⟨c, rest, chars, -⟩ := type.eq_cons
    rw [← toList_camel, chars]
    exact List.cons_ne_nil c rest
  rw [snakeBody, sanitize_of_isBody type.isBody, toList_snake, toList_camel]
  exact Chars.segments_snake_camel (isSnake_snakeModelName reserved raw) nonempty

/-- The parts of the name of a model are not empty. -/
theorem nonempty_parts_snakeModelName (reserved : ReservedWords) (raw : String) :
    ∀ part ∈ Chars.parts (snakeModelName reserved raw).name.toList, part ≠ [] :=
  fun _ member => ((isSnake_snakeModelName reserved raw).isSnakePart_of_mem member).nonempty

variable {reserved : ReservedWords} {raw : String}

/-- Where the name of a model is made of a text with a start, its type name has that start where the
name keeps it. -/
theorem startsWith_snakeBody_camel_iff {start : String}
    (begins : Text.startsWith (snakeBody start ++ "_") (snakeBody raw) = true) :
    Text.startsWith (snakeBody start ++ "_")
        (snakeBody (camel (snakeModelName reserved raw).name)) = true ↔
      Chars.KeepsStart (affixWords start)
        (Chars.parts (snakeModelName reserved raw).name.toList) := by
  rw [Text.startsWith_iff, String.toList_append] at begins ⊢
  change (snakeBody start).toList ++ ['_'] <+: _ at begins
  change (snakeBody start).toList ++ ['_'] <+: _ ↔ _
  rw [Chars.prefix_iff_segments, segments_snakeBody_camel]
  refine ⟨?_, Chars.KeepsStart.regroup_eq⟩
  rintro ⟨more, some, same⟩
  have nonempty := nonempty_parts_snakeModelName reserved raw
  have words : ∀ part ∈ affixWords start, part ≠ [] := by
    intro part member
    refine Chars.nonempty_of_mem_regroup nonempty part ?_
    rw [same]
    exact List.mem_append_left more member
  obtain ⟨rest, spelt⟩ := begins
  have parts : Chars.parts (snakeBody raw).toList = affixWords start ++ Chars.parts rest := by
    rw [← spelt, List.append_assoc, List.singleton_append, Chars.parts_append_underscore,
      Chars.parts_eq_segments words]
    rfl
  rcases parts_snakeModelName reserved raw with plain | corrected
  · rw [plain, parts] at nonempty same ⊢
    exact Chars.keepsStart_of_regroup nonempty some same
  · rw [corrected, parts] at nonempty same ⊢
    exact Chars.keepsStart_of_regroup_cons (by decide) nonempty same

/-- Where the name of a model is made of a text with an ending, its type name has that ending where
the name keeps it. -/
theorem endsWith_snakeBody_camel_iff {ending : String}
    (ends : Text.endsWith ("_" ++ snakeBody ending) (snakeBody raw) = true) :
    Text.endsWith ("_" ++ snakeBody ending)
        (snakeBody (camel (snakeModelName reserved raw).name)) = true ↔
      Chars.KeepsEnding (affixWords ending)
        (Chars.parts (snakeModelName reserved raw).name.toList) := by
  rw [Text.endsWith_iff, String.toList_append] at ends ⊢
  change '_' :: (snakeBody ending).toList <:+ _ at ends
  change '_' :: (snakeBody ending).toList <:+ _ ↔ _
  rw [Chars.suffix_iff_segments, segments_snakeBody_camel]
  refine ⟨?_, Chars.KeepsEnding.regroup_eq⟩
  rintro ⟨before, some, same⟩
  have nonempty := nonempty_parts_snakeModelName reserved raw
  have words : ∀ part ∈ affixWords ending, part ≠ [] := by
    intro part member
    refine Chars.nonempty_of_mem_regroup nonempty part ?_
    rw [same]
    exact List.mem_append_right before member
  obtain ⟨rest, spelt⟩ := ends
  have parts : Chars.parts (snakeBody raw).toList = Chars.parts rest ++ affixWords ending := by
    rw [← spelt, Chars.parts_append_underscore, Chars.parts_eq_segments words]
    rfl
  have either : ∃ others, Chars.parts (snakeModelName reserved raw).name.toList =
      others ++ affixWords ending := by
    rcases parts_snakeModelName reserved raw with plain | corrected
    · exact ⟨_, plain.trans parts⟩
    · exact ⟨['m', 'o', 'd', 'e', 'l'] :: Chars.parts rest, by rw [corrected, parts]; rfl⟩
  obtain ⟨others, found⟩ := either
  rw [found] at nonempty same ⊢
  exact Chars.keepsEnding_of_regroup nonempty some same

/-- No affix is put around the type name of a model once more exactly where the name of the model in
snake case keeps both: each affix is a run of its parts and has another part beside it, and from the
affix to that neighbour every two parts are told apart in camel case. -/
theorem applyAffixes_modelName_iff {naming : Naming}
    (unmapped : naming.settings.modelNameMapping = Table.empty) (raw : String) :
    ∃ snakeName name : String,
      (naming.snakeModelName raw).result = .ok (.ofText snakeName) ∧
      (naming.modelName raw).result = .ok (.ofText name) ∧
      (applyAffixes naming.settings name = name ↔
        (naming.settings.modelNamePrefix.content ≠ "" →
          Chars.KeepsStart (affixWords naming.settings.modelNamePrefix.content)
            (Chars.parts snakeName.toList)) ∧
        (naming.settings.modelNameSuffix.content ≠ "" →
          Chars.KeepsEnding (affixWords naming.settings.modelNameSuffix.content)
            (Chars.parts snakeName.toList))) := by
  refine ⟨_, _, Naming.snakeModelName_result_of_unmapped unmapped raw,
    Naming.modelName_result_of_unmapped unmapped raw, ?_⟩
  rw [applyAffixes_eq_self_iff]
  refine and_congr (imp_congr_right fun given => ?_) (imp_congr_right fun given => ?_)
  · exact startsWith_snakeBody_camel_iff (startsWith_snakeBody_applyAffixes given raw)
  · exact endsWith_snakeBody_camel_iff (endsWith_snakeBody_applyAffixes given raw)

/-- The start `My` and the ending `Dto` are found in the type name of the model `pet`. -/
theorem affixes_found_again :
    ∃ naming, Naming.ofSettings { modelNamePrefix := "My", modelNameSuffix := "Dto" } = .ok naming ∧
      (naming.modelName "pet").result = .ok (.ofText "MyPetDto") ∧
      applyAffixes naming.settings "MyPetDto" = "MyPetDto" := by
  have nothing : Settings.OverridesNothing { modelNamePrefix := "My", modelNameSuffix := "Dto" } :=
    ⟨rfl, rfl, rfl, rfl, rfl⟩
  have accepted := Naming.ofSettings_of_reserved (ReservedWords.ofSettings_eq_plain nothing rfl)
  have unmapped : (⟨{ modelNamePrefix := "My", modelNameSuffix := "Dto" }, plain⟩ :
      Naming).settings.modelNameMapping = Table.empty := rfl
  have computed : (Naming.computedModelName ⟨{ modelNamePrefix := "My", modelNameSuffix := "Dto" },
      plain⟩ "pet").name = "my_pet_dto" := by
    decide
  obtain ⟨snakeName, name, snakeNamed, named, again⟩ := applyAffixes_modelName_iff unmapped "pet"
  rw [Naming.snakeModelName_result_of_unmapped unmapped, computed] at snakeNamed
  have spelt : snakeName = "my_pet_dto" := (congrArg Label.text (Except.ok.inj snakeNamed)).symm
  have type : camel "my_pet_dto" = "MyPetDto" := by decide
  rw [Naming.modelName_result_of_unmapped unmapped, computed, type] at named
  have typed : name = "MyPetDto" := (congrArg Label.text (Except.ok.inj named)).symm
  rw [spelt, typed] at again
  refine ⟨_, accepted, ?_, again.2 ⟨fun _ => ?_, fun _ => ?_⟩⟩
  · rw [Naming.modelName_result_of_unmapped unmapped, computed, type]
  · exact ⟨"pet".toList, ["dto".toList], by decide, by decide⟩
  · exact ⟨["my".toList], "pet".toList, by decide, by decide⟩

/-- The start `go` is put before the model `1` once more, since a digit is no word of its own, and
before the model `to`, since that is corrected for the word `goto`. -/
theorem start_put_again :
    ∃ naming, Naming.ofSettings { modelNamePrefix := "go" } = .ok naming ∧
      (naming.modelName "1").result = .ok (.ofText "Go1") ∧
      applyAffixes naming.settings "Go1" = "go_Go1" ∧
      (naming.modelName "to").result = .ok (.ofText "ModelGoTo") ∧
      applyAffixes naming.settings "ModelGoTo" = "go_ModelGoTo" := by
  have nothing : Settings.OverridesNothing { modelNamePrefix := "go" } := ⟨rfl, rfl, rfl, rfl, rfl⟩
  have accepted := Naming.ofSettings_of_reserved (ReservedWords.ofSettings_eq_plain nothing rfl)
  have unmapped : (⟨{ modelNamePrefix := "go" }, plain⟩ : Naming).settings.modelNameMapping =
      Table.empty := rfl
  have types : camel (Naming.computedModelName ⟨{ modelNamePrefix := "go" }, plain⟩ "1").name =
        "Go1" ∧
      camel (Naming.computedModelName ⟨{ modelNamePrefix := "go" }, plain⟩ "to").name =
        "ModelGoTo" := by
    decide
  refine ⟨_, accepted, ?_, by decide, ?_, by decide⟩
  · rw [Naming.modelName_result_of_unmapped unmapped, types.1]
  · rw [Naming.modelName_result_of_unmapped unmapped, types.2]

end GoBindings
