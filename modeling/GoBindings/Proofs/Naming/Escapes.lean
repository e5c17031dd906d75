import GoBindings.Proofs.Naming.ExtraWords

/-!
# Escaped names

A table of reserved words holds its words in small letters, and it is refused where one of them
begins or ends with the suffix by which it escapes names. An escaped name is looked up in small
letters too, and so it ends with the small letters of the suffix there. The main statement: an
escaped name is free whatever the words and the name exactly where the suffix is in small letters
itself.
-/

namespace GoBindings

namespace Unicode

/-- The small form of a character is one character or is listed as several. -/
theorem lowerChar_cases (c : Char) :
    (∃ d, lowerChar c = [d]) ∨
      ∃ codes, (c.toNat, codes) ∈ lowerExpansions ∧ lowerChar c = codes.map Char.ofNat := by
  rw [lowerChar]
  split
  · exact .inl ⟨c.toLower, rfl⟩
  · rw [caseImage]
    split
    · rename_i codes expanded
      exact .inr ⟨codes, mem_of_lookup expanded, rfl⟩
    · split
      · rename_i run _
        exact .inl ⟨run.image c.toNat, rfl⟩
      · exact .inl ⟨c, rfl⟩

/-- Every character has a small form. -/
theorem lowerChar_ne_nil (c : Char) : lowerChar c ≠ [] := by
  have listed : ∀ entry ∈ lowerExpansions, entry.2.map Char.ofNat ≠ [] := by decide
  rcases lowerChar_cases c with ⟨d, single⟩ | ⟨codes, entry, several⟩
  · rw [single]
    exact List.cons_ne_nil d []
  · rw [several]
    exact listed _ entry

/-- A character that its small form holds is its own small form. -/
theorem lowerChar_eq_of_mem {c : Char} (member : c ∈ lowerChar c) : lowerChar c = [c] := by
  have listed : ∀ entry ∈ lowerExpansions, Char.ofNat entry.1 ∉ entry.2.map Char.ofNat := by decide
  rcases lowerChar_cases c with ⟨d, single⟩ | ⟨codes, entry, several⟩
  · rw [single] at member ⊢
    rw [List.mem_singleton.1 member]
  · have other := listed _ entry
    rw [Char.ofNat_toNat, ← several] at other
    exact absurd member other

end Unicode

namespace Chars

/-! ## Texts in small letters -/

/-- The small form of a character between what stands before it, nearest character first, and what
follows it. -/
def lowerAt (before : List Char) (c : Char) (after : List Char) : List Char :=
  if c = 'Σ' then [lowerSigma before after] else Unicode.lowerChar c

/-- A text is in small letters character by character, each behind those before it. -/
theorem lowerAfter_cons (before : List Char) (c : Char) (rest : List Char) :
    lowerAfter before (c :: rest) = lowerAt before c rest ++ lowerAfter (c :: before) rest := rfl

/-- The small form of a sigma is none of capitals. -/
theorem lowerSigma_ne (before after : List Char) : lowerSigma before after ≠ 'Σ' := by
  rw [lowerSigma]
  split <;> decide

/-- Every character has a small form wherever it stands. -/
theorem lowerAt_ne_nil (before : List Char) (c : Char) (after : List Char) :
    lowerAt before c after ≠ [] := by
  rw [lowerAt]
  split
  · exact List.cons_ne_nil _ _
  · exact Unicode.lowerChar_ne_nil c

/-- A character that its small form holds is its own small form wherever it stands. -/
theorem lowerAt_eq_of_mem {before after : List Char} {c : Char}
    (member : c ∈ lowerAt before c after) (before' after' : List Char) :
    lowerAt before' c after' = [c] := by
  rw [lowerAt] at member ⊢
  split at member
  · rename_i sigma
    rw [sigma] at member
    exact absurd (List.mem_singleton.1 member).symm (lowerSigma_ne before after)
  · rename_i other
    rw [if_neg other, Unicode.lowerChar_eq_of_mem member]

/-- A text has at least as many characters in small letters. -/
theorem length_le_length_lowerAfter (before s : List Char) :
    s.length ≤ (lowerAfter before s).length := by
  induction s generalizing before with
  | nil => exact Nat.le_refl 0
  | cons c rest ih =>
    have here := List.length_pos_iff.2 (lowerAt_ne_nil before c rest)
    have later := ih (c :: before)
    rw [lowerAfter_cons, List.length_append, List.length_cons]
    omega

/-- A text that begins as its small letters do is in small letters, whatever stands before it. -/
theorem lowerAfter_eq_self_of_prefix {before s : List Char} (starts : s <+: lowerAfter before s)
    (before' : List Char) : lowerAfter before' s = s := by
  induction s generalizing before before' with
  | nil => rfl
  | cons c rest ih =>
    rw [lowerAfter_cons] at starts ⊢
    have held : c ∈ lowerAt before c rest := by
      cases form : lowerAt before c rest with
      | nil => exact absurd form (lowerAt_ne_nil before c rest)
      | cons d more =>
        rw [form] at starts
        rw [(List.cons_prefix_cons.1 starts).1]
        exact List.mem_cons_self
    rw [lowerAt_eq_of_mem held] at starts ⊢
    exact congrArg (List.cons c) (ih (List.cons_prefix_cons.1 starts).2 _)

/-- A text that ends as its small letters do is in small letters. What follows its first character
has at least as many characters in small letters, so it ends alike. -/
theorem lowerAfter_eq_self_of_suffix {before s : List Char} (ends : s <:+ lowerAfter before s) :
    lowerAfter before s = s := by
  induction s generalizing before with
  | nil => rfl
  | cons c rest ih =>
    rw [lowerAfter_cons] at ends ⊢
    have later : lowerAfter (c :: before) rest = rest :=
      ih (List.suffix_of_suffix_length_le ((List.suffix_cons c rest).trans ends)
        (List.suffix_append _ _) (length_le_length_lowerAfter _ rest))
    rw [later] at ends ⊢
    obtain ⟨start, chars⟩ := ends
    rw [List.append_cons] at chars
    have held : c ∈ lowerAt before c rest := by
      rw [← List.append_cancel_right chars]
      exact List.mem_append_right start List.mem_cons_self
    rw [lowerAt_eq_of_mem held]
    rfl

/-- In small letters a text ends with the small letters of its end. -/
theorem suffix_lowerAfter_append (before a b : List Char) :
    lowerAfter (a.reverse ++ before) b <:+ lowerAfter before (a ++ b) := by
  induction a generalizing before with
  | nil => exact List.suffix_rfl
  | cons c rest ih =>
    rw [List.reverse_cons, List.append_assoc, List.singleton_append, List.cons_append,
      lowerAfter_cons]
    exact (ih (c :: before)).trans (List.suffix_append _ _)

end Chars

namespace ReservedWords

/-- Without replacements a name is escaped by its camel case and the suffix. -/
theorem escape_of_noReplacements {reserved : ReservedWords}
    (noReplacements : reserved.replacements = Table.empty) (name : String) :
    reserved.escape name = .ofText (camel name ++ reserved.suffix) := by
  rw [escape, noReplacements]
  rfl

/-- An escaped name is free where no word ends with the small letters of the suffix. -/
theorem unreserved_escape {reserved : ReservedWords}
    (noReplacements : reserved.replacements = Table.empty)
    (apart : ∀ word ∈ reserved.words, ∀ before,
      ¬ Chars.lowerAfter before reserved.suffix.toList <:+ word.toList) (name : String) :
    reserved.isReserved (reserved.escape name).text = false := by
  rw [escape_of_noReplacements noReplacements, Label.text_ofText, Bool.eq_false_iff]
  intro held
  have member := ((isReserved_iff_of_noReplacements noReplacements _).1 held).2
  refine apart _ member ((camel name).toList.reverse ++ []) ?_
  rw [Text.toList_lower, String.toList_append]
  exact Chars.suffix_lowerAfter_append [] _ _

/-- A single word is accepted where its small letters neither begin nor end with the suffix. -/
theorem build_singleton {word suffix : String} (given : suffix ≠ "")
    (starts : ¬ suffix.toList <+: (Text.lower word).toList)
    (ends : ¬ suffix.toList <:+ (Text.lower word).toList) :
    build [word] Table.empty suffix = .ok ⟨[Text.lower word], Table.empty, suffix⟩ := by
  have clean : clashing suffix [Text.lower word] = [] := by
    rw [← Text.startsWith_iff, Bool.not_eq_true] at starts
    rw [← Text.endsWith_iff, Bool.not_eq_true] at ends
    simp [clashing, starts, ends]
  have lowered : ([word].map Text.lower).eraseDups = [Text.lower word] := rfl
  have nonempty : suffix.isEmpty = false := by simpa using given
  simp only [build, lowered, clean, nonempty]
  rfl

/-- Without a suffix there is nothing that small letters change. -/
theorem ne_empty_of_lower_ne {suffix : String} (changed : Text.lower suffix ≠ suffix) :
    suffix ≠ "" := by
  rintro rfl
  exact changed rfl

/-- A suffix that is not in small letters is accepted beside itself as the word. -/
theorem build_own_suffix {suffix : String} (changed : Text.lower suffix ≠ suffix) :
    build [suffix] Table.empty suffix = .ok ⟨[Text.lower suffix], Table.empty, suffix⟩ := by
  have different : Chars.lower suffix.toList ≠ suffix.toList := by
    rw [← Text.toList_lower]
    exact fun same => changed (String.toList_inj.1 same)
  refine build_singleton (ne_empty_of_lower_ne changed) ?starts ?ends
  case starts =>
    rw [Text.toList_lower]
    exact fun starts => different (Chars.lowerAfter_eq_self_of_prefix starts [])
  case ends =>
    rw [Text.toList_lower]
    exact fun ends => different (Chars.lowerAfter_eq_self_of_suffix ends)

/-- No word accepted beside a suffix in small letters ends with its small letters. -/
theorem apart_of_build {words : List String} {suffix : String} {reserved : ReservedWords}
    (small : Text.lower suffix = suffix)
    (accepted : build words Table.empty suffix = .ok reserved) :
    ∀ word ∈ reserved.words, ∀ before,
      ¬ Chars.lowerAfter before reserved.suffix.toList <:+ word.toList := by
  obtain ⟨made, clean⟩ := of_build accepted
  have chars : Chars.lowerAfter [] suffix.toList = suffix.toList := by
    have lowered := Text.toList_lower suffix
    rw [small] at lowered
    exact lowered.symm
  have starts : suffix.toList <+: Chars.lowerAfter [] suffix.toList := chars.symm ▸ List.prefix_rfl
  have same : reserved.suffix = suffix := by rw [made]
  intro word member before ends
  rw [same, Chars.lowerAfter_eq_self_of_prefix starts before] at ends
  refine List.filter_eq_nil_iff.1 clean word member (Bool.or_eq_true_iff.2 (.inr ?_))
  exact (Text.endsWith_iff suffix word).2 ends

/-- In tables without replacements every escaped name is free, whatever the accepted words, exactly
where the suffix is in small letters: one that is not may be a word itself, and escapes the empty
name. -/
theorem escape_free_iff (suffix : String) :
    (∀ words reserved, build words Table.empty suffix = .ok reserved →
      ∀ name, reserved.isReserved (reserved.escape name).text = false) ↔
      Text.lower suffix = suffix := by
  constructor
  · intro free
    refine Decidable.byContradiction fun changed => ?_
    have given := ne_empty_of_lower_ne changed
    have unreserved := free [suffix] _ (build_own_suffix changed) ""
    have held : Text.lower (camel "" ++ suffix) ∈ [Text.lower suffix] := List.mem_singleton.2 rfl
    rw [escape_of_noReplacements rfl, Bool.eq_false_iff] at unreserved
    exact unreserved ((isReserved_iff_of_noReplacements rfl _).2 ⟨given, held⟩)
  · intro small words reserved accepted
    have noReplacements : reserved.replacements = Table.empty := by rw [(of_build accepted).1]
    exact unreserved_escape noReplacements (apart_of_build small accepted)

/-- The word `foox` is accepted beside the suffix `X`, and the name that `foo` is escaped to is
reserved by it. -/
theorem capital_suffix_reserved :
    ∃ reserved, build ["foox"] Table.empty "X" = .ok reserved ∧
      reserved.escape "foo" = .ofText "FooX" ∧ reserved.isReserved "FooX" = true :=
  ⟨⟨["foox"], Table.empty, "X"⟩, rfl, rfl, rfl⟩

end ReservedWords

end GoBindings
