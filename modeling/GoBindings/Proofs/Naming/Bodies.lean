import GoBindings.Proofs.Naming.CaseLaws

/-!
# Identifier bodies of texts

The replacements that make a body are made one after the other, but all that they do across
characters is to find empty brackets. So texts side by side are sanitized each on its own unless the
joint closes a bracket: there the first text alone keeps an underscore for it, which both together
lose. The main statement says so, and that bodies are what comes out and what stays as it is.
-/

namespace GoBindings

namespace Chars

/-- Just the bodies are left alone. -/
theorem sanitize_eq_self_iff (s : List Char) : sanitize s = s ↔ IsBody s := by
  constructor
  · intro same
    have body := isBody_sanitize s
    rwa [same] at body
  · exact sanitize_of_isBodyChar

/-- Brackets that are closed at a joint are lost, and nothing else: the text behind the joint may as
well begin with both of them. -/
theorem sanitize_append_brackets (a b : List Char) :
    sanitize ((a ++ ['[']) ++ (']' :: b)) = sanitize a ++ sanitize b := by
  have joined : (a ++ ['[']) ++ (']' :: b) = a ++ ('[' :: ']' :: b) := by
    rw [List.append_assoc, List.singleton_append]
  have lost : sanitize ('[' :: ']' :: b) = sanitize b := by
    rw [sanitize_eq, sanitize_eq, dropEmptyBrackets]
  have apart : ('[' :: ']' :: b).head? ≠ some ']' := by
    rw [List.head?_cons]
    decide
  rw [joined, sanitize_append_of_apart (.inr apart), lost]

/-- A bracket that is not closed is an underscore. -/
theorem sanitize_append_open (a : List Char) : sanitize (a ++ ['[']) = sanitize a ++ ['_'] := by
  have apart : ['['].head? ≠ some ']' := by decide
  have spelt : sanitize ['['] = ['_'] := by decide
  rw [sanitize_append_of_apart (.inr apart), spelt]

/-- A bracket that closes none is dropped. -/
theorem sanitize_closing_cons (b : List Char) : sanitize (']' :: b) = sanitize b := by
  have apart : [']'].getLast? ≠ some '[' := by decide
  have spelt : sanitize [']'] = [] := by decide
  rw [← List.singleton_append, sanitize_append_of_apart (.inl apart), spelt, List.nil_append]

/-- Texts side by side are sanitized each on its own exactly where the joint closes no bracket. -/
theorem sanitize_append_iff (a b : List Char) :
    sanitize (a ++ b) = sanitize a ++ sanitize b ↔ ¬ (['['] <:+ a ∧ [']'] <+: b) := by
  constructor
  · rintro same ⟨⟨before, rfl⟩, ⟨behind, rfl⟩⟩
    rw [List.singleton_append, sanitize_append_brackets, sanitize_append_open,
      sanitize_closing_cons] at same
    have lengths := congrArg List.length same
    rw [List.length_append, List.length_append, List.length_append,
      List.length_singleton] at lengths
    omega
  · intro unclosed
    apply sanitize_append_of_apart
    by_cases opens : a.getLast? = some '['
    · refine .inr fun closes => unclosed ⟨?_, ?_⟩
      · obtain ⟨before, rfl⟩ := List.getLast?_eq_some_iff.1 opens
        exact List.suffix_append before ['[']
      · obtain ⟨behind, rfl⟩ := List.head?_eq_some_iff.1 closes
        exact List.prefix_append [']'] behind
    · exact .inl opens

end Chars

/-- Every text is sanitized to a text of ASCII letters, digits and underscores, and just such a text
stays as it is. Two texts side by side are sanitized each on its own, except where the first ends
with an opening bracket and the second begins with a closing one. -/
theorem texts_sanitized (first second : String) :
    Chars.IsBody (sanitize first).toList ∧
    (sanitize first = first ↔ Chars.IsBody first.toList) ∧
    (sanitize (first ++ second) = sanitize first ++ sanitize second ↔
      ¬ (Text.endsWith "[" first = true ∧ Text.startsWith "]" second = true)) := by
  have joint : Text.endsWith "[" first = true ∧ Text.startsWith "]" second = true ↔
      ['['] <:+ first.toList ∧ [']'] <+: second.toList :=
    and_congr (Text.endsWith_iff "[" first) (Text.startsWith_iff "]" second)
  refine ⟨?_, ?_, ?_⟩
  · rw [toList_sanitize]
    exact Chars.isBody_sanitize first.toList
  · rw [← String.toList_inj, toList_sanitize]
    exact Chars.sanitize_eq_self_iff first.toList
  · rw [← String.toList_inj, joint, toList_sanitize, String.toList_append, String.toList_append,
      toList_sanitize, toList_sanitize]
    exact Chars.sanitize_append_iff first.toList second.toList

/-- The brackets of a list are lost, also where they are closed by another text. -/
example : sanitize "tags[]_id" = "tags_id" ∧ sanitize "tags[" ++ sanitize "]_id" = "tags__id" := by
  decide

end GoBindings
