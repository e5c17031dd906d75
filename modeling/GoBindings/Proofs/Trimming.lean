import GoBindings.Text.Segments
import Mathlib.Data.List.Basic
import Mathlib.Data.List.TakeWhile

/-!
# Laws of trimming

Trimming drops characters of a class from both ends of a text and nothing else. What is left neither
begins nor ends with such a character, and a text of that form is left alone; with one character of
the class at an end it is what is left.
-/

namespace GoBindings.Chars

/-- A text that neither begins nor ends with a character of a class. -/
structure IsTrimmed (drop : Char → Bool) (s : List Char) : Prop where
  /-- It does not begin with one. -/
  first : s.head?.any drop = false
  /-- It does not end with one. -/
  last : s.getLast?.any drop = false

instance (drop : Char → Bool) (s : List Char) : Decidable (IsTrimmed drop s) :=
  decidable_of_iff (s.head?.any drop = false ∧ s.getLast?.any drop = false)
    ⟨fun both => ⟨both.1, both.2⟩, fun trimmed => ⟨trimmed.first, trimmed.last⟩⟩

variable {drop : Char → Bool} {s : List Char}

/-- What is left behind dropped characters does not begin with one of the class. -/
theorem any_head?_dropWhile (drop : Char → Bool) (s : List Char) :
    (s.dropWhile drop).head?.any drop = false := by
  have stops := List.head?_dropWhile_not drop s
  cases first : (s.dropWhile drop).head? with
  | none => rfl
  | some c =>
    rw [first] at stops
    exact stops

/-- Nothing is dropped from a text that does not begin with a character of the class. -/
theorem dropWhile_of_head? (first : s.head?.any drop = false) : s.dropWhile drop = s := by
  cases s with
  | nil => rfl
  | cons c rest => exact List.dropWhile_cons_of_neg (Bool.eq_false_iff.1 first)

/-- Other characters are not dropped. -/
theorem mem_dropWhile {c : Char} (member : c ∈ s) (kept : drop c = false) :
    c ∈ s.dropWhile drop := by
  rw [← List.takeWhile_append_dropWhile (p := drop) (l := s)] at member
  refine (List.mem_append.1 member).resolve_left fun dropped => ?_
  rw [List.mem_takeWhile_imp dropped] at kept
  cases kept

/-- Other characters are not trimmed off. -/
theorem mem_trim {c : Char} (member : c ∈ s) (kept : drop c = false) : c ∈ trim drop s :=
  List.mem_reverse.2 (mem_dropWhile (List.mem_reverse.2 (mem_dropWhile member kept)) kept)

/-- Trimming adds nothing. -/
theorem trim_subset (drop : Char → Bool) (s : List Char) : trim drop s ⊆ s := fun _ member =>
  List.dropWhile_subset _ (List.mem_reverse.1 (List.dropWhile_subset _ (List.mem_reverse.1 member)))

/-- What is trimmed neither begins nor ends with a character of the class. -/
theorem isTrimmed_trim (drop : Char → Bool) (s : List Char) : IsTrimmed drop (trim drop s) where
  first := by
    have front : trim drop s <+: s.dropWhile drop := by
      rw [trim, ← List.reverse_suffix, List.reverse_reverse]
      exact List.dropWhile_suffix drop
    have stops := any_head?_dropWhile drop s
    obtain ⟨more, chars⟩ := front
    rw [← chars] at stops
    cases begins : trim drop s with
    | nil => rfl
    | cons c rest =>
      rw [begins] at stops
      exact stops
  last := by
    rw [trim, List.getLast?_reverse]
    exact any_head?_dropWhile drop _

namespace IsTrimmed

/-- Nothing is dropped from the reverse of a trimmed text. -/
theorem dropWhile_reverse (trimmed : IsTrimmed drop s) : s.reverse.dropWhile drop = s.reverse := by
  apply dropWhile_of_head?
  rw [List.head?_reverse]
  exact trimmed.last

/-- A trimmed text is left alone. -/
theorem trim_eq (trimmed : IsTrimmed drop s) : trim drop s = s := by
  rw [trim, dropWhile_of_head? trimmed.first, trimmed.dropWhile_reverse, List.reverse_reverse]

/-- A character of the class before a trimmed text is dropped. -/
theorem trim_cons (trimmed : IsTrimmed drop s) {c : Char} (dropped : drop c = true) :
    trim drop (c :: s) = s := by
  rw [trim, List.dropWhile_cons_of_pos dropped]
  exact trimmed.trim_eq

/-- A character of the class behind a trimmed text is dropped. -/
theorem trim_append (trimmed : IsTrimmed drop s) (nonempty : s ≠ []) {c : Char}
    (dropped : drop c = true) : trim drop (s ++ [c]) = s := by
  have first : (s ++ [c]).head?.any drop = false := by
    rw [List.head?_append_of_ne_nil s nonempty]
    exact trimmed.first
  rw [trim, dropWhile_of_head? first, List.reverse_append, List.reverse_singleton,
    List.singleton_append, List.dropWhile_cons_of_pos dropped, trimmed.dropWhile_reverse,
    List.reverse_reverse]

end IsTrimmed

end GoBindings.Chars
