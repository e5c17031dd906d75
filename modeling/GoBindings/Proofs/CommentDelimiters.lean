import GoBindings.Literal
import GoBindings.Proofs.Naming.Underscores
import Mathlib.Data.List.Chain

/-!
# Broken comment delimiters

A delimiter of comments is a pair of characters, and it is broken by an underscore between them. So
what has to be shown is told of neighbours: those in the broken text are neighbours in the text that
are no such pair, or one of them is the underscore, which is in no delimiter. The same holds when
the other delimiter is broken in what came out, so nothing that was broken is joined again. The main
statement: a broken text holds no delimiter, and it is the text itself but for underscores, without
any where there was no delimiter.
-/

namespace GoBindings

namespace Chars

/-! ## Pairs -/

variable {first second : Char}

/-- Whether two characters are not the given ones in their order. -/
def NoPair (first second c d : Char) : Prop := ¬ (c = first ∧ d = second)

/-- No neighbours are a pair exactly where the pair is nowhere in the text. -/
theorem isChain_noPair_iff {s : List Char} :
    s.IsChain (NoPair first second) ↔ ¬ [first, second] <:+: s := by
  rw [List.isChain_iff_forall_rel_of_append_cons_cons]
  constructor
  · rintro apart ⟨before, behind, rfl⟩
    have split : before ++ [first, second] ++ behind = before ++ first :: second :: behind := by
      rw [List.append_assoc, List.cons_append, List.cons_append, List.nil_append]
    exact apart split ⟨rfl, rfl⟩
  · rintro absent c d before behind rfl ⟨rfl, rfl⟩
    exact absent ⟨before, behind, List.append_assoc before [c, d] behind⟩

/-- A text starts with its first character and with no other. -/
theorem startsWithChar_iff (c : Char) (s : List Char) :
    startsWithChar c s = true ↔ s.head? = some c := by
  cases s with
  | nil => exact iff_of_false Bool.false_ne_true (Option.some_ne_none c).symm
  | cons d rest => rw [startsWithChar, beq_iff_eq, List.head?_cons, Option.some.injEq]

/-- A character gets an underscore behind it where it begins a pair, and else it does not. -/
theorem separatePair_cons (first second c : Char) (rest : List Char) :
    (c = first ∧ rest.head? = some second ∧
      separatePair first second (c :: rest) = c :: '_' :: separatePair first second rest) ∨
    (¬ (c = first ∧ rest.head? = some second) ∧
      separatePair first second (c :: rest) = c :: separatePair first second rest) := by
  by_cases pair : c = first ∧ rest.head? = some second
  · have begun : (c == first && startsWithChar second rest) = true := by
      rw [Bool.and_eq_true, beq_iff_eq, startsWithChar_iff]
      exact pair
    exact .inl ⟨pair.1, pair.2, by rw [separatePair, if_pos begun]⟩
  · have other : ¬ (c == first && startsWithChar second rest) = true := by
      rw [Bool.and_eq_true, beq_iff_eq, startsWithChar_iff]
      exact pair
    exact .inr ⟨pair, by rw [separatePair, if_neg other]⟩

/-- A text with its pairs separated begins as it did. -/
theorem head?_separatePair (s : List Char) : (separatePair first second s).head? = s.head? := by
  cases s with
  | nil => rfl
  | cons c rest =>
    rcases separatePair_cons first second c rest with
      ⟨-, -, separated⟩ | ⟨-, kept⟩
    · rw [separated, List.head?_cons, List.head?_cons]
    · rw [kept, List.head?_cons, List.head?_cons]

/-- With its pairs separated a text has the neighbours that it had, the pairs aside, and those that
the underscores make: behind each of them stands what ended a pair. -/
theorem isChain_separatePair {R : Char → Char → Prop} {s : List Char}
    (neighbours : s.IsChain fun c d => NoPair first second c d → R c d)
    (before : R first '_') (behind : R '_' second) :
    (separatePair first second s).IsChain R := by
  induction s with
  | nil => exact .nil
  | cons c rest ih =>
    obtain ⟨next, later⟩ := List.isChain_cons.1 neighbours
    have separatedLater := ih later
    rcases separatePair_cons first second c rest with
      ⟨rfl, begins, separated⟩ | ⟨noPair, kept⟩
    · rw [separated]
      refine .cons_cons before (List.isChain_cons.2 ⟨fun d member => ?_, separatedLater⟩)
      rw [head?_separatePair, begins] at member
      obtain rfl := Option.some.inj member
      exact behind
    · rw [kept]
      refine List.isChain_cons.2 ⟨fun d member => ?_, separatedLater⟩
      rw [head?_separatePair] at member
      exact next d member fun pair => noPair ⟨pair.1, pair.2 ▸ member⟩

/-- No pair without underscores is joined when others are separated: it is nowhere afterwards if it
was nowhere before but where it was separated. -/
theorem isChain_noPair_separatePair {other another : Char} (otherMark : other ≠ '_')
    (anotherMark : another ≠ '_') {s : List Char}
    (neighbours : s.IsChain fun c d => NoPair first second c d → NoPair other another c d) :
    (separatePair first second s).IsChain (NoPair other another) := by
  refine isChain_separatePair neighbours (fun pair => ?_) fun pair => ?_
  · exact anotherMark pair.2.symm
  · exact otherMark pair.1.symm

/-- A text without the pair stays as it is. -/
theorem separatePair_of_isChain {s : List Char} (apart : s.IsChain (NoPair first second)) :
    separatePair first second s = s := by
  induction s with
  | nil => rfl
  | cons c rest ih =>
    obtain ⟨next, later⟩ := List.isChain_cons.1 apart
    rcases separatePair_cons first second c rest with
      ⟨begun, begins, -⟩ | ⟨-, kept⟩
    · exact absurd ⟨begun, rfl⟩ (next second begins)
    · rw [kept, ih later]

/-- Only underscores are put in. -/
theorem bare_separatePair (s : List Char) : bare (separatePair first second s) = bare s := by
  induction s with
  | nil => rfl
  | cons c rest ih =>
    have joined (a b : List Char) (same : bare a = bare b) : bare (c :: a) = bare (c :: b) := by
      rw [← List.singleton_append, bare_append, same, ← bare_append, List.singleton_append]
    rcases separatePair_cons first second c rest with
      ⟨-, -, separated⟩ | ⟨-, kept⟩
    · rw [separated]
      exact joined _ _ ((bare_underscore_cons _).trans ih)
    · rw [kept]
      exact joined _ _ ih

end Chars

/-! ## Delimiters -/

open Chars

/-- Whether a comment could end or begin within a text. -/
def HoldsDelimiter (text : String) : Prop :=
  "*/".toList <:+: text.toList ∨ "/*".toList <:+: text.toList

/-- A text holds no delimiter where none of its neighbours are one. -/
theorem not_holdsDelimiter_iff (text : String) :
    ¬ HoldsDelimiter text ↔
      text.toList.IsChain (NoPair '*' '/') ∧ text.toList.IsChain (NoPair '/' '*') := by
  rw [isChain_noPair_iff, isChain_noPair_iff, HoldsDelimiter, not_or]
  exact Iff.rfl

/-- The ends are broken first, and then the begins. -/
theorem toList_breakCommentDelimiters (text : String) :
    (breakCommentDelimiters text).toList =
      separatePair '/' '*' (separatePair '*' '/' text.toList) := by
  rw [breakCommentDelimiters, String.toList_ofList]

/-- A broken text holds no delimiter, as breaking the begins joins no end again. -/
theorem not_holdsDelimiter_breakCommentDelimiters (text : String) :
    ¬ HoldsDelimiter (breakCommentDelimiters text) := by
  rw [not_holdsDelimiter_iff, toList_breakCommentDelimiters]
  have separated (first second : Char) (s : List Char) :
      s.IsChain fun c d => NoPair first second c d → NoPair first second c d :=
    (List.pairwise_of_forall fun _ _ noPair => noPair).isChain
  have noEnd := isChain_noPair_separatePair (by decide) (by decide)
    (separated '*' '/' text.toList)
  constructor
  · exact isChain_noPair_separatePair (by decide) (by decide)
      (noEnd.imp fun _ _ noPair _ => noPair)
  · exact isChain_noPair_separatePair (by decide) (by decide) (separated '/' '*' _)

/-- A text without delimiters stays as it is. -/
theorem breakCommentDelimiters_of_not_holdsDelimiter {text : String}
    (free : ¬ HoldsDelimiter text) : breakCommentDelimiters text = text := by
  obtain ⟨noEnd, noBegin⟩ := (not_holdsDelimiter_iff text).1 free
  apply String.toList_inj.1
  rw [toList_breakCommentDelimiters, separatePair_of_isChain noEnd,
    separatePair_of_isChain noBegin]

/-- Whatever a text holds, with its delimiters broken it holds none; it stays as it is just where it
held none before, so breaking it again changes nothing; and but for underscores it has the same
characters in the same order. -/
theorem commentDelimiters_broken (text : String) :
    ¬ HoldsDelimiter (breakCommentDelimiters text) ∧
    (breakCommentDelimiters text = text ↔ ¬ HoldsDelimiter text) ∧
    breakCommentDelimiters (breakCommentDelimiters text) = breakCommentDelimiters text ∧
    bare (breakCommentDelimiters text).toList = bare text.toList := by
  have free := not_holdsDelimiter_breakCommentDelimiters text
  refine ⟨free, ⟨fun same => same ▸ free, breakCommentDelimiters_of_not_holdsDelimiter⟩,
    breakCommentDelimiters_of_not_holdsDelimiter free, ?_⟩
  rw [toList_breakCommentDelimiters, bare_separatePair, bare_separatePair]

/-- Delimiters that share their characters are all broken. -/
example : breakCommentDelimiters "/*/ **//*" = "/_*_/ **_//_*" := by
  decide +kernel

end GoBindings
