import GoBindings.Text.Segments

/-!
# Identifier bodies

Any text is turned into a body of ASCII letters, digits and underscores. Empty brackets vanish, an
opening bracket or parenthesis and every separator becomes an underscore, and all other characters
are dropped. These replacements are made one after the other, each over the whole text. Once empty
brackets are gone none of them looks beyond a character, so the work is that of a rule for single
characters. The main statements: the result is a body, and a body is left alone.
-/

namespace GoBindings

namespace Chars

/-- An ASCII letter, a digit or an underscore. -/
def isBodyChar (c : Char) : Bool := c.isAlphanum || c == '_'

/-- A character that stands between words. -/
def isSeparator (c : Char) : Bool := c ∈ ['.', '-', '|', ' ', '/']

/-- What one character contributes to an identifier body. -/
def bodyChars (c : Char) : List Char :=
  if isBodyChar c then [c]
  else if c ∈ ['[', '(', '.', '-', '|', ' ', '/'] then ['_']
  else []

/-- The text without its empty brackets, found from left to right. -/
def dropEmptyBrackets : List Char → List Char
  | '[' :: ']' :: rest => dropEmptyBrackets rest
  | c :: rest => c :: dropEmptyBrackets rest
  | [] => []

/-- The replacements that are made in a text without empty brackets, in their order: the characters
that are replaced, and what comes into their place. -/
def bodyReplacements : List ((Char → Bool) × List Char) :=
  [((· == '['), ['_']), ((· == ']'), []), ((· == '('), ['_']), ((· == ')'), []),
    (isSeparator, ['_']), ((!isBodyChar ·), [])]

/-- What a replacement makes of one character. -/
def replaced (replacement : (Char → Bool) × List Char) (c : Char) : List Char :=
  if replacement.1 c then replacement.2 else [c]

/-- The identifier body of a text. -/
def sanitize (s : List Char) : List Char :=
  bodyReplacements.foldl (fun body replacement => body.flatMap (replaced replacement))
    (dropEmptyBrackets s)

/-- All replacements together make of a character what it contributes to a body. For most characters
only the last replacement is left, which drops what is no body character. -/
theorem foldl_replaced (c : Char) :
    bodyReplacements.foldl (fun body replacement => body.flatMap (replaced replacement)) [c] =
      bodyChars c := by
  by_cases listed : c ∈ ['[', ']', '(', ')', '.', '-', '|', ' ', '/']
  · have each : ['[', ']', '(', ')', '.', '-', '|', ' ', '/'].all (fun d =>
        bodyReplacements.foldl (fun body replacement => body.flatMap (replaced replacement)) [d] ==
          bodyChars d) = true := by decide
    exact eq_of_beq (List.all_eq_true.1 each c listed)
  · simp only [List.mem_cons, List.not_mem_nil, or_false, not_or] at listed
    by_cases body : isBodyChar c = true
    · simp [bodyReplacements, replaced, bodyChars, isSeparator, listed, body]
    · simp [bodyReplacements, replaced, bodyChars, isSeparator, listed, body]

/-- Without its empty brackets a text is sanitized character by character. -/
theorem sanitize_eq (s : List Char) : sanitize s = (dropEmptyBrackets s).flatMap bodyChars := by
  rw [sanitize, foldl_flatMap]
  exact congrArg (dropEmptyBrackets s).flatMap (funext foldl_replaced)

/-- Every character that is kept belongs to a body. -/
theorem isBodyChar_of_mem_bodyChars {c d : Char} (h : d ∈ bodyChars c) : isBodyChar d = true := by
  unfold bodyChars at h
  split at h
  · simp_all
  · split at h
    · simp at h; subst h; decide
    · simp at h

/-- A body character contributes itself. -/
theorem bodyChars_of_isBodyChar {c : Char} (h : isBodyChar c = true) : bodyChars c = [c] := by
  simp [bodyChars, h]

/-- A text without an opening bracket has no empty brackets to lose. -/
theorem dropEmptyBrackets_of_not_mem {s : List Char} (h : '[' ∉ s) : dropEmptyBrackets s = s := by
  fun_induction dropEmptyBrackets s with
  | case1 rest ih => exact absurd (List.mem_cons_self ..) h
  | case2 c rest _ ih => rw [ih fun hm => h (List.mem_cons_of_mem c hm)]
  | case3 => rfl

/-- A body is left alone. -/
theorem sanitize_of_isBodyChar {s : List Char} (h : ∀ c ∈ s, isBodyChar c = true) :
    sanitize s = s := by
  have open_not_mem : '[' ∉ s := fun hm => absurd (h _ hm) (by decide)
  rw [sanitize_eq, dropEmptyBrackets_of_not_mem open_not_mem]
  clear open_not_mem
  induction s with
  | nil => rfl
  | cons c rest ih =>
    rw [List.flatMap_cons, bodyChars_of_isBodyChar (h c (by simp)),
      ih fun d hd => h d (List.mem_cons_of_mem c hd)]
    rfl

/-- The result is a body. -/
theorem isBodyChar_of_mem_sanitize {s : List Char} {d : Char} (h : d ∈ sanitize s) :
    isBodyChar d = true := by
  rw [sanitize_eq] at h
  obtain ⟨c, -, hd⟩ := List.mem_flatMap.1 h
  exact isBodyChar_of_mem_bodyChars hd

end Chars

/-- The identifier body of a text. -/
def sanitize (s : String) : String := String.ofList (Chars.sanitize s.toList)

/-- The characters of the identifier body of a text. -/
@[simp] theorem toList_sanitize (s : String) :
    (sanitize s).toList = Chars.sanitize s.toList := by
  simp [sanitize]

end GoBindings
