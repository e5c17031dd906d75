import GoBindings.Unicode.Blank

/-!
# Cutting, trimming and joining text

A text is cut at every occurrence of a separator character, so joining the segments with that
character gives it back. Trimming removes the characters of a class from both ends.
-/

namespace GoBindings

namespace Chars

/-- The segments between the occurrences of a separator; there is always at least one. -/
def segments (separator : Char) : List Char → List (List Char)
  | [] => [[]]
  | c :: rest =>
    if c = separator then [] :: segments separator rest
    else
      match segments separator rest with
      | [] => [[c]]
      | head :: tail => (c :: head) :: tail

/-- Segments with the separator between neighbours. -/
def joinSegments (separator : Char) : List (List Char) → List Char
  | [] => []
  | [last] => last
  | head :: next :: tail => head ++ separator :: joinSegments separator (next :: tail)

/-- A text has at least one segment. -/
theorem segments_ne_nil (separator : Char) (s : List Char) : segments separator s ≠ [] := by
  cases s with
  | nil => simp [segments]
  | cons c rest =>
    rw [segments]
    split
    · simp
    · split <;> simp

/-- Joining undoes cutting. -/
theorem joinSegments_segments (separator : Char) (s : List Char) :
    joinSegments separator (segments separator s) = s := by
  induction s with
  | nil => rfl
  | cons c rest ih =>
    rw [segments]
    split
    · rename_i h
      cases hs : segments separator rest with
      | nil => exact absurd hs (segments_ne_nil separator rest)
      | cons head tail => rw [joinSegments, ← hs, ih, h]; rfl
    · cases hs : segments separator rest with
      | nil => exact absurd hs (segments_ne_nil separator rest)
      | cons head tail =>
        rw [hs] at ih
        cases tail with
        | nil => simpa [joinSegments] using ih
        | cons next tail => simpa [joinSegments] using ih

/-- A text without the characters of a class at its two ends. -/
def trim (drop : Char → Bool) (s : List Char) : List Char :=
  ((s.dropWhile drop).reverse.dropWhile drop).reverse

/-- Replacing characters time after time replaces each character of the text on its own. -/
theorem foldl_flatMap {α : Type} (code : α → Char → List Char) (steps : List α) (s : List Char) :
    steps.foldl (fun word step => word.flatMap (code step)) s =
      s.flatMap fun c => steps.foldl (fun word step => word.flatMap (code step)) [c] := by
  induction steps generalizing s with
  | nil => exact s.flatMap_singleton'.symm
  | cons step rest ih =>
    simp only [List.foldl_cons, List.flatMap_singleton]
    rw [ih, List.flatMap_assoc]
    exact congrArg s.flatMap (funext fun c => (ih (code step c)).symm)

end Chars

namespace Text

/-- The segments between the occurrences of a separator. -/
def segments (separator : Char) (s : String) : List String :=
  (Chars.segments separator s.toList).map String.ofList

/-- Texts with a separator text between neighbours. -/
def join (separator : String) (parts : List String) : String :=
  separator.intercalate parts

/-- A text without the characters of a class at its two ends. -/
def trim (drop : Char → Bool) (s : String) : String :=
  String.ofList (Chars.trim drop s.toList)

/-- Whether a text begins with another. -/
def startsWith (start s : String) : Bool := start.toList.isPrefixOf s.toList

/-- Whether a text ends with another. -/
def endsWith (ending s : String) : Bool := ending.toList.isSuffixOf s.toList

/-- A text whose characters of one kind are each replaced by a text. -/
def replaceChars (f : Char → List Char) (s : String) : String :=
  String.ofList (s.toList.flatMap f)

/-- The characters of a trimmed text. -/
@[simp] theorem toList_trim (drop : Char → Bool) (s : String) :
    (trim drop s).toList = Chars.trim drop s.toList := by
  simp [trim]

/-- The characters of a text whose characters are replaced. -/
@[simp] theorem toList_replaceChars (f : Char → List Char) (s : String) :
    (replaceChars f s).toList = s.toList.flatMap f := by
  simp [replaceChars]

/-- The characters of a text in which characters are replaced time after time. -/
theorem toList_foldl_replaceChars {α : Type} (code : α → Char → List Char) (steps : List α)
    (s : String) : (steps.foldl (fun written step => replaceChars (code step) written) s).toList =
      s.toList.flatMap fun c => steps.foldl (fun word step => word.flatMap (code step)) [c] := by
  rw [← Chars.foldl_flatMap]
  induction steps generalizing s with
  | nil => rfl
  | cons step rest ih =>
    rw [List.foldl_cons, List.foldl_cons, ih, toList_replaceChars]

/-- The prefix test is the prefix relation of the characters. -/
theorem startsWith_iff (start s : String) :
    startsWith start s = true ↔ start.toList <+: s.toList := by
  simp [startsWith]

/-- The suffix test is the suffix relation of the characters. -/
theorem endsWith_iff (ending s : String) :
    endsWith ending s = true ↔ ending.toList <:+ s.toList := by
  simp [endsWith]

end Text

end GoBindings
