import GoBindings.Unicode.CaseMap
import GoBindings.Unicode.Cased

/-!
# Full case mapping of text

Each character maps to its small or capital form, which may have several characters. The one rule
that looks beyond a character is that of the capital sigma, which lowers to its final form at the
end of a word. On ASCII text both maps are the pointwise ASCII ones.
-/

namespace GoBindings

namespace Chars

open Unicode

/-- Whether the nearest character that is not case-ignorable is cased. -/
def casedAhead : List Char → Bool
  | [] => false
  | c :: rest => if isCaseIgnorable c then casedAhead rest else isCased c

/-- The small form of a sigma, final exactly between a cased letter and the end of its word. -/
def lowerSigma (before after : List Char) : Char :=
  if casedAhead before && !casedAhead after then 'ς' else 'σ'

/-- The small forms of a text that continues `before`, which is given nearest character first. -/
def lowerAfter (before : List Char) : List Char → List Char
  | [] => []
  | c :: rest =>
    (if c = 'Σ' then [lowerSigma before rest] else lowerChar c) ++ lowerAfter (c :: before) rest

/-- A text in small letters. -/
def lower (s : List Char) : List Char := lowerAfter [] s

/-- A text in capitals. -/
def upper (s : List Char) : List Char := s.flatMap upperChar

/-- A text with its first character in capitals. -/
def capitalize : List Char → List Char
  | [] => []
  | c :: rest => upperChar c ++ rest

/-- A text with its first character in small letters. -/
def uncapitalize : List Char → List Char
  | [] => []
  | c :: rest => lower [c] ++ rest

/-- ASCII text lowers character by character. -/
theorem lowerAfter_of_ascii (before s : List Char) (h : ∀ c ∈ s, c.toNat < 0x80) :
    lowerAfter before s = s.map Char.toLower := by
  induction s generalizing before with
  | nil => rfl
  | cons c rest ih =>
    have hc : c.toNat < 0x80 := h c (by simp)
    have hne : c ≠ 'Σ' := fun e => by subst e; exact absurd hc (by decide)
    simp [lowerAfter, hne, lowerChar_of_ascii c hc, ih (c :: before) fun d hd => h d (by simp [hd])]

/-- ASCII text lowers character by character. -/
theorem lower_of_ascii (s : List Char) (h : ∀ c ∈ s, c.toNat < 0x80) :
    lower s = s.map Char.toLower :=
  lowerAfter_of_ascii [] s h

/-- ASCII text is capitalised character by character. -/
theorem upper_of_ascii (s : List Char) (h : ∀ c ∈ s, c.toNat < 0x80) :
    upper s = s.map Char.toUpper := by
  induction s with
  | nil => rfl
  | cons c rest ih =>
    have hc : c.toNat < 0x80 := h c (by simp)
    have ih := ih fun d hd => h d (by simp [hd])
    simp only [upper] at ih
    simp [upper, upperChar_of_ascii c hc, ih]

end Chars

namespace Text

/-- A text in small letters. -/
def lower (s : String) : String := String.ofList (Chars.lower s.toList)

/-- A text in capitals. -/
def upper (s : String) : String := String.ofList (Chars.upper s.toList)

/-- A text with its first character in capitals. -/
def capitalize (s : String) : String := String.ofList (Chars.capitalize s.toList)

/-- A text with its first character in small letters. -/
def uncapitalize (s : String) : String := String.ofList (Chars.uncapitalize s.toList)

/-- The characters of a text in small letters. -/
@[simp] theorem toList_lower (s : String) : (lower s).toList = Chars.lower s.toList := by
  simp [lower]

/-- The characters of a text in capitals. -/
@[simp] theorem toList_upper (s : String) : (upper s).toList = Chars.upper s.toList := by
  simp [upper]

/-- The characters of a text with a capital first letter. -/
@[simp] theorem toList_capitalize (s : String) :
    (capitalize s).toList = Chars.capitalize s.toList := by
  simp [capitalize]

end Text

end GoBindings
