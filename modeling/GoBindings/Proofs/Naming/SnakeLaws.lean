import GoBindings.Proofs.Naming.Underscores

/-!
# Laws of snake case

Two passes put underscores into a name, the second into what the first made, and no character is
lost on the way: hyphens and spaces become underscores and capitals become small. Both passes put an
underscore only next to a capital. So what has none, and no hyphen or space, is its own snake case,
and the snake case of an ASCII text is such a text. Neither pass looks beyond an underscore. The
main statement joins these laws.
-/

namespace GoBindings

namespace Chars

/-! ## Snake case again -/

/-- A text without capitals, hyphens and spaces. -/
def IsSnakeCased (s : List Char) : Prop := ∀ c ∈ s, c.isUpper = false ∧ toUnderscore c = c

/-- Nothing is broken where there are no capitals. -/
theorem breakWhere_of_capitals {test : Char → List Char → Bool}
    (capital : ∀ c rest, test c rest = true → c.isUpper = true ∨ startsCapital rest = true)
    {s : List Char} (small : ∀ c ∈ s, c.isUpper = false) : breakWhere test s = s := by
  induction s with
  | nil => rfl
  | cons c rest ih =>
    have later : ∀ d ∈ rest, d.isUpper = false :=
      fun d member => small d (List.mem_cons_of_mem c member)
    have whole : test c rest = false := by
      refine Bool.eq_false_iff.2 fun broken => ?_
      rcases capital c rest broken with first | next
      · rw [small c List.mem_cons_self] at first
        exact Bool.noConfusion first
      · cases rest with
        | nil => exact Bool.noConfusion next
        | cons d more =>
          rw [startsCapital, later d List.mem_cons_self] at next
          exact Bool.noConfusion next
    rw [breakWhere, whole, ih later]
    rfl

/-- An ASCII character that is no capital is its own small form. -/
theorem toLower_of_not_isUpper {c : Char} (ascii : c.toNat < 0x80) (small : c.isUpper = false) :
    c.toLower = c :=
  ascii_induction (P := fun c => c.isUpper = false → c.toLower = c) (by decide) ascii small

/-- A text without capitals, hyphens and spaces is its own snake case. -/
theorem IsSnakeCased.snake_eq {s : List Char} (settled : IsSnakeCased s) (ascii : IsAscii s) :
    snake s = s := by
  have small : ∀ c ∈ s, c.isUpper = false := fun c member => (settled c member).1
  have acronyms : breakAcronyms s = s := by
    rw [breakAcronyms_eq]
    exact breakWhere_of_capitals (fun c rest ends => .inl (Bool.and_eq_true_iff.1 ends).1) small
  have words : breakWords s = s := by
    rw [breakWords_eq]
    exact breakWhere_of_capitals (fun c rest ends => .inr (Bool.and_eq_true_iff.1 ends).2) small
  have kept : s.map toUnderscore = s :=
    (List.map_congr_left fun c member => (settled c member).2).trans (List.map_id _)
  have lowered : s.map Char.toLower = s := by
    refine (List.map_congr_left fun c member => ?_).trans (List.map_id _)
    exact toLower_of_not_isUpper (ascii c member) (small c member)
  rw [snake, acronyms, words, kept, lower_of_ascii s ascii, lowered]

/-- The snake case of an ASCII text holds small forms, of underscores for hyphens and spaces. -/
theorem exists_of_mem_snake {s : List Char} (ascii : IsAscii s) {c : Char}
    (member : c ∈ snake s) : ∃ d, d.toNat < 0x80 ∧ c = (toUnderscore d).toLower := by
  rw [snake_of_ascii ascii, brokenWords, List.map_map] at member
  obtain ⟨d, broken, rfl⟩ := List.mem_map.1 member
  rw [breakWords_eq, breakAcronyms_eq] at broken
  have origin : d ∈ s ∨ d = '_' := (of_mem_breakWhere broken).elim of_mem_breakWhere Or.inr
  rcases origin with there | rfl
  · exact ⟨d, ascii d there, rfl⟩
  · exact ⟨'_', underscore_ascii, rfl⟩

/-- The snake case of an ASCII text is ASCII. -/
theorem IsAscii.snake {s : List Char} (ascii : IsAscii s) : IsAscii (snake s) := by
  intro c member
  obtain ⟨d, small, rfl⟩ := exists_of_mem_snake ascii member
  exact ascii_induction (P := fun d => (toUnderscore d).toLower.toNat < 0x80) (by decide) small

/-- The snake case of an ASCII text has no capitals, hyphens and spaces. -/
theorem isSnakeCased_snake {s : List Char} (ascii : IsAscii s) : IsSnakeCased (snake s) := by
  intro c member
  obtain ⟨d, small, rfl⟩ := exists_of_mem_snake ascii member
  exact ascii_induction (P := fun d => (toUnderscore d).toLower.isUpper = false ∧
    toUnderscore (toUnderscore d).toLower = (toUnderscore d).toLower) (by decide) small

/-- Snake case is its own snake case. -/
theorem snake_snake {s : List Char} (ascii : IsAscii s) : snake (snake s) = snake s :=
  (isSnakeCased_snake ascii).snake_eq ascii.snake

/-! ## What snake casing keeps -/

/-- A broken text has its characters in their order. -/
theorem sublist_breakWhere (test : Char → List Char → Bool) (s : List Char) :
    s.Sublist (breakWhere test s) := by
  induction s with
  | nil => exact List.Sublist.slnil
  | cons c rest ih =>
    rw [breakWhere]
    split
    · exact (ih.cons '_').cons_cons c
    · exact ih.cons_cons c

/-- Snake case has the small forms of the characters in their order, of underscores for hyphens and
spaces. -/
theorem sublist_snake {s : List Char} (ascii : IsAscii s) :
    (s.map fun c => (toUnderscore c).toLower).Sublist (snake s) := by
  have broken : s.Sublist (breakWords (breakAcronyms s)) := by
    rw [breakWords_eq, breakAcronyms_eq]
    exact (sublist_breakWhere _ s).trans (sublist_breakWhere _ _)
  rw [snake_of_ascii ascii, brokenWords, List.map_map]
  exact broken.map _

end Chars

/-! ## Names -/

/-- Snake casing an ASCII name puts underscores into it, also for hyphens and spaces, and makes its
letters small: nothing else is lost, added or moved. Snake case is its own snake case, and names
joined by an underscore have their snake cases joined by it. -/
theorem snake_separators {name : String} (ascii : Chars.IsAscii name.toList) :
    Chars.bare (snake name).toList = Chars.lower (Chars.withoutSeparators name.toList) ∧
    (name.toList.map fun c => (Chars.toUnderscore c).toLower).Sublist (snake name).toList ∧
    snake (snake name) = snake name ∧
    ∀ other : String, Chars.IsAscii other.toList →
      snake (name ++ "_" ++ other) = snake name ++ "_" ++ snake other := by
  refine ⟨?_, ?_, ?_, ?_⟩
  · rw [toList_snake]
    exact Chars.bare_snake_of_ascii ascii
  · rw [toList_snake]
    exact Chars.sublist_snake ascii
  · apply String.toList_inj.1
    rw [toList_snake, toList_snake]
    exact Chars.snake_snake ascii
  · intro other otherAscii
    have joined (a b : String) : (a ++ "_" ++ b).toList = a.toList ++ '_' :: b.toList := by
      rw [String.toList_append, String.toList_append, List.append_assoc]
      rfl
    apply String.toList_inj.1
    rw [toList_snake, joined, joined, toList_snake, toList_snake]
    exact Chars.snake_append_underscore ascii otherAscii

/-- An acronym, a hyphen and a digit before a capital are kept apart by underscores once and for
all, also behind a further name. -/
theorem hyphened_acronym_snake :
    Chars.IsAscii "petHTTPServer-v2Go".toList ∧ Chars.IsAscii "New Pet".toList ∧
    Chars.bare (snake "petHTTPServer-v2Go").toList = "pethttpserverv2go".toList ∧
    snake (snake "petHTTPServer-v2Go") = snake "petHTTPServer-v2Go" ∧
    snake ("petHTTPServer-v2Go" ++ "_" ++ "New Pet") = "pet_http_server_v2_go_new_pet" := by
  have server : Chars.IsAscii "petHTTPServer-v2Go".toList := Chars.isAscii_of_all rfl
  have pet : Chars.IsAscii "New Pet".toList := Chars.isAscii_of_all rfl
  obtain ⟨letters, -, again, joined⟩ := snake_separators server
  refine ⟨server, pet, ?_, again, ?_⟩
  · rw [letters]
    decide
  · rw [joined "New Pet" pet]
    decide

end GoBindings
