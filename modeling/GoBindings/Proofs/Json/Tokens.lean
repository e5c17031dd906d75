import GoBindings.Json.Printer
import GoBindings.Json.Reader

/-!
# Tokens of JSON

Texts and numbers are read back from their written forms, whatever stands behind them. A text ends
at its closing quote. A number has no closing mark: its reader goes on for as long as it can, so
something has to follow that goes on with no number. In a file a comma, a line end or nothing does.
-/

namespace GoBindings.Json

/-! ## Texts -/

/-- A digit of base sixteen stands for its value. -/
theorem hexValue?_digitChar : ∀ n < 16, hexValue? (Nat.digitChar n) = some n := by
  decide

/-- The escape of a control character is read as it. -/
theorem readUnicodeEscape_control {c : Char} (control : c.toNat < 0x20) (rest : List Char) :
    readUnicodeEscape
        ('0' :: '0' :: Nat.digitChar (c.toNat / 16) :: Nat.digitChar (c.toNat % 16) :: rest) =
      some (c, rest) := by
  have high := hexValue?_digitChar (c.toNat / 16) (by omega)
  have low := hexValue?_digitChar (c.toNat % 16) (by omega)
  have zero : hexValue? '0' = some 0 := rfl
  have unit : readCodeUnit
      ('0' :: '0' :: Nat.digitChar (c.toNat / 16) :: Nat.digitChar (c.toNat % 16) :: rest) =
        some (c.toNat, rest) := by
    have whole : ((0 * 16 + 0) * 16 + c.toNat / 16) * 16 + c.toNat % 16 = c.toNat := by omega
    simp only [readCodeUnit, zero, high, low, Option.bind_eq_bind, Option.bind_some, whole]
  have noHigh : isHighSurrogate c.toNat = false := by
    simp only [isHighSurrogate, Bool.and_eq_false_iff, decide_eq_false_iff_not]
    omega
  have noLow : isLowSurrogate c.toNat = false := by
    simp only [isLowSurrogate, Bool.and_eq_false_iff, decide_eq_false_iff_not]
    omega
  simp only [readUnicodeEscape, unit, Option.bind_eq_bind, Option.bind_some, noHigh,
    Bool.false_eq_true, ↓reduceIte, unitChar, noLow, Bool.or_self, Char.ofNat_toNat]

/-- The written form of a character is a backslash before a letter that stands for it, or the code
of a control character, or the character itself. -/
theorem escapeChar_cases (c : Char) :
    (∃ escape, escapeChar c = ['\\', escape] ∧ simpleEscape? escape = some c ∧ escape ≠ 'u') ∨
      (c.toNat < 0x20 ∧ escapeChar c =
        ['\\', 'u', '0', '0', Nat.digitChar (c.toNat / 16), Nat.digitChar (c.toNat % 16)]) ∨
      (escapeChar c = [c] ∧ c ≠ '"' ∧ c ≠ '\\' ∧ ¬ c.toNat < 0x20) := by
  have simple {escape : Char} (read : simpleEscape? escape = some c) (other : escape ≠ 'u') :
      ∃ letter, ['\\', escape] = ['\\', letter] ∧ simpleEscape? letter = some c ∧ letter ≠ 'u' :=
    ⟨escape, rfl, read, other⟩
  rw [escapeChar]
  iterate 7
    split
    · rename_i mark
      exact .inl (simple (by rw [mark]; rfl) (by decide))
  split
  · rename_i control
    exact .inr (.inl ⟨control, rfl⟩)
  · rename_i mark backslash _ _ _ _ _ control
    exact .inr (.inr ⟨rfl, mark, backslash, control⟩)

/-- The written form of a character is read as it. -/
theorem readText_escapeChar (c : Char) (fuel : Nat) (rest : List Char) :
    readText (fuel + 1) (escapeChar c ++ rest) =
      (readText fuel rest).map fun read => (c :: read.1, read.2) := by
  rcases escapeChar_cases c with
    ⟨escape, written, read, other⟩ | ⟨control, written⟩ | ⟨written, mark, backslash, control⟩
  · rw [written, List.cons_append, List.singleton_append, readText]
    · rw [read]
      cases readText fuel rest <;> rfl
    · exact other
  · simp only [written, List.cons_append, List.nil_append]
    rw [readText, readUnicodeEscape_control control]
    simp only [Option.bind_eq_bind, Option.bind_some]
    cases readText fuel rest <;> rfl
  · rw [written, List.singleton_append, readText]
    · rw [if_neg (not_or.2 ⟨backslash, control⟩)]
      cases readText fuel rest <;> rfl
    · exact mark
    · exact fun later same => absurd same backslash
    · exact fun d later same => absurd same backslash

/-- A text is read back from its written form up to the closing quote. -/
theorem readText_written {s : List Char} {fuel : Nat} (enough : s.length < fuel)
    (rest : List Char) :
    readText fuel (s.flatMap escapeChar ++ '"' :: rest) = some (s, rest) := by
  induction s generalizing fuel with
  | nil =>
    obtain ⟨more, rfl⟩ := Nat.exists_eq_succ_of_ne_zero (Nat.ne_of_gt enough)
    rfl
  | cons c tail ih =>
    rw [List.length_cons] at enough
    obtain ⟨more, rfl⟩ := Nat.exists_eq_succ_of_ne_zero (Nat.ne_of_gt (Nat.zero_lt_of_lt enough))
    rw [List.flatMap_cons, List.append_assoc, readText_escapeChar, ih (by omega)]
    rfl

/-! ## Numbers -/

/-- What a file has behind a value begins with a comma or a line end, or there is nothing. -/
def EndsValue (rest : List Char) : Prop := ∀ c ∈ rest.head?, c = ',' ∨ c = '\n'

/-- What ends a value does not begin with a certain other character. -/
theorem EndsValue.head_ne {rest : List Char} (ends : EndsValue rest) {c : Char} (comma : c ≠ ',')
    (feed : c ≠ '\n') (tail : List Char) : rest ≠ c :: tail := by
  rintro rfl
  rcases ends c rfl with same | same
  · exact comma same
  · exact feed same

/-- A character that no value ends with is in front of both texts or of none. -/
theorem exists_of_append_eq_cons {rest : List Char} (ends : EndsValue rest) {c : Char}
    (comma : c ≠ ',') (feed : c ≠ '\n') {s later : List Char} (begun : s ++ rest = c :: later) :
    ∃ tail, s = c :: tail ∧ later = tail ++ rest := by
  cases s with
  | nil => exact absurd begun (ends.head_ne comma feed later)
  | cons d tail =>
    cases begun
    exact ⟨tail, rfl, rfl⟩

/-- What a reader of the front of a text leaves, with more behind it. -/
def followed {α : Type} (rest : List Char) (read : α × List Char) : α × List Char :=
  (read.1, read.2 ++ rest)

/-- The digits at the front of a text are the same with an end behind it. -/
theorem digits_append {rest : List Char} (ends : EndsValue rest) (s : List Char) :
    (s ++ rest).takeWhile Char.isDigit = s.takeWhile Char.isDigit ∧
      (s ++ rest).dropWhile Char.isDigit = s.dropWhile Char.isDigit ++ rest := by
  induction s with
  | nil =>
    cases rest with
    | nil => exact ⟨rfl, rfl⟩
    | cons c tail =>
      have other : c.isDigit = false := by
        rcases ends c rfl with rfl | rfl <;> rfl
      simp [other]
  | cons c tail ih =>
    by_cases digit : c.isDigit
    · simp [digit, ih]
    · simp [digit]

/-- A word is found at the front of a text as before with something behind it that does not go on
with the word. -/
theorem readWord_append {word rest : List Char} (ends : EndsValue rest) (comma : ',' ∉ word)
    (feed : '\n' ∉ word) (s : List Char) :
    readWord word (s ++ rest) = (readWord word s).map (· ++ rest) := by
  induction word generalizing s with
  | nil => simp [readWord]
  | cons c later ih =>
    obtain ⟨noComma, commaLater⟩ := not_or.1 (mt List.mem_cons.2 comma)
    obtain ⟨noFeed, feedLater⟩ := not_or.1 (mt List.mem_cons.2 feed)
    cases s with
    | nil =>
      cases rest with
      | nil => rfl
      | cons d tail =>
        have other : c ≠ d := by
          rintro rfl
          exact ends.head_ne (Ne.symm noComma) (Ne.symm noFeed) tail rfl
        simp [readWord, other]
    | cons d tail =>
      by_cases same : c = d
      · simpa [readWord, same] using ih commaLater feedLater tail
      · simp [readWord, same]

/-- The integer part of a number is the same with an end behind it. -/
theorem readWhole_append {rest : List Char} (ends : EndsValue rest) (s : List Char) :
    readWhole (s ++ rest) = (readWhole s).map (followed rest) := by
  obtain ⟨taken, dropped⟩ := digits_append ends s
  by_cases zero : ∃ tail, s = '0' :: tail
  · obtain ⟨tail, rfl⟩ := zero
    rfl
  · rw [readWhole, readWhole, taken, dropped]
    · split <;> rfl
    · exact fun tail begun => zero ⟨tail, begun⟩
    · intro later begun
      obtain ⟨tail, same, -⟩ := exists_of_append_eq_cons ends (by decide) (by decide) begun
      exact zero ⟨tail, same⟩

/-- The fraction of a number is the same with an end behind it. -/
theorem readFraction_append {rest : List Char} (ends : EndsValue rest) (s : List Char) :
    readFraction (s ++ rest) = (readFraction s).map (followed rest) := by
  by_cases point : ∃ tail, s = '.' :: tail
  · obtain ⟨tail, rfl⟩ := point
    obtain ⟨taken, dropped⟩ := digits_append ends tail
    rw [List.cons_append, readFraction, readFraction, taken, dropped]
    split <;> rfl
  · rw [readFraction, readFraction]
    · rfl
    · exact fun tail begun => point ⟨tail, begun⟩
    · intro later begun
      obtain ⟨tail, same, -⟩ := exists_of_append_eq_cons ends (by decide) (by decide) begun
      exact point ⟨tail, same⟩

/-- The sign of an exponent is the same with an end behind it. -/
theorem readSign_append {rest : List Char} (ends : EndsValue rest) (s : List Char) :
    readSign (s ++ rest) = followed rest (readSign s) := by
  cases s with
  | nil =>
    rw [List.nil_append, readSign]
    · rfl
    · exact ends.head_ne (by decide) (by decide)
    · exact ends.head_ne (by decide) (by decide)
  | cons c tail =>
    rw [List.cons_append, readSign.eq_def (c :: tail)]
    split
    · rename_i begun
      cases begun
      rfl
    · rename_i begun
      cases begun
      rfl
    · rename_i noMinus noPlus
      rw [readSign]
      · rfl
      · rintro later begun
        cases begun
        exact noMinus tail rfl
      · rintro later begun
        cases begun
        exact noPlus tail rfl

/-- The exponent of a number is the same with an end behind it. -/
theorem readExponent_append {rest : List Char} (ends : EndsValue rest) (s : List Char) :
    readExponent (s ++ rest) = (readExponent s).map (followed rest) := by
  cases s with
  | nil =>
    cases rest with
    | nil => rfl
    | cons c tail =>
      have noMark : ¬(c = 'e' ∨ c = 'E') := by
        rcases ends c rfl with rfl | rfl <;> decide
      rw [List.nil_append, readExponent, if_neg noMark]
      rfl
  | cons c tail =>
    rw [List.cons_append, readExponent, readExponent]
    by_cases mark : c = 'e' ∨ c = 'E'
    · rw [if_pos mark, if_pos mark, readSign_append ends]
      obtain ⟨taken, dropped⟩ := digits_append ends (readSign tail).2
      simp only [followed, taken, dropped]
      split <;> rfl
    · rw [if_neg mark, if_neg mark]
      rfl

/-- A number without its sign is the same with an end behind it. -/
theorem readUnsigned_append {rest : List Char} (ends : EndsValue rest) (negative : Bool)
    (s : List Char) :
    readUnsigned negative (s ++ rest) = (readUnsigned negative s).map (followed rest) := by
  rw [readUnsigned, readUnsigned, readWhole_append ends]
  cases readWhole s with
  | none => rfl
  | some whole =>
    simp only [Option.map_some, followed, Option.bind_eq_bind, Option.bind_some,
      readFraction_append ends, readExponent_append ends]
    cases readFraction whole.2 with
    | none =>
      cases readExponent whole.2 with
      | none => rfl
      | some exponent => rfl
    | some fraction =>
      simp only [Option.map_some, followed, readExponent_append ends]
      cases readExponent fraction.2 with
      | none => rfl
      | some exponent => rfl

/-- A number is the same with an end behind it. -/
theorem readNumber_append {rest : List Char} (ends : EndsValue rest) (s : List Char) :
    readNumber (s ++ rest) = (readNumber s).map (followed rest) := by
  have word {word : List Char} (comma : ',' ∉ word) (feed : '\n' ∉ word) (value : Json)
      (s : List Char) :
      (readWord word (s ++ rest)).map (value, ·) =
        ((readWord word s).map (value, ·)).map (followed rest) := by
    rw [readWord_append ends comma feed, Option.map_map, Option.map_map]
    rfl
  rw [readNumber.eq_def s]
  split
  · exact word (by decide) (by decide) _ ('N' :: _)
  · exact word (by decide) (by decide) _ ('I' :: _)
  · exact word (by decide) (by decide) _ ('-' :: 'I' :: _)
  · rename_i tail noInfinity
    rw [List.cons_append, readNumber]
    · exact readUnsigned_append ends true tail
    · intro later begun
      obtain ⟨other, rfl, -⟩ := exists_of_append_eq_cons ends (by decide) (by decide) begun
      exact noInfinity other rfl
  · rename_i noName noInfinity _ noMinus
    rw [readNumber]
    · exact readUnsigned_append ends false s
    · intro later begun
      obtain ⟨other, same, -⟩ := exists_of_append_eq_cons ends (by decide) (by decide) begun
      exact noName other same
    · intro later begun
      obtain ⟨other, same, -⟩ := exists_of_append_eq_cons ends (by decide) (by decide) begun
      exact noInfinity other same
    · intro later begun
      obtain ⟨other, same, -⟩ := exists_of_append_eq_cons ends (by decide) (by decide) begun
      exact noMinus other same
    · intro later begun
      obtain ⟨other, same, -⟩ := exists_of_append_eq_cons ends (by decide) (by decide) begun
      exact noMinus other same

/-! ## Whole numbers -/

/-- The digits of a number but the last are those of its tenth. -/
theorem toDigits_succ_digit {n : Nat} (more : 10 ≤ n) :
    Nat.toDigits 10 n = Nat.toDigits 10 (n / 10) ++ [Nat.digitChar (n % 10)] := by
  rw [Nat.toDigits_eq_if (by decide), if_neg (by omega)]

/-- The digits of a number are digits, the first of them no zero unless it is the only one, and the
number is their value. -/
theorem toDigits_spec (n : Nat) :
    (∀ c ∈ Nat.toDigits 10 n, c.isDigit) ∧ digitsValue (Nat.toDigits 10 n) = n ∧
      ((Nat.toDigits 10 n).head? = some '0' → n = 0) ∧ Nat.toDigits 10 n ≠ [] := by
  have digit : ∀ d < 10, (Nat.digitChar d).isDigit ∧
      (Nat.digitChar d).toNat - '0'.toNat = d ∧ (Nat.digitChar d = '0' → d = 0) := by
    decide
  induction n using Nat.strongRecOn with
  | _ n ih =>
    by_cases more : 10 ≤ n
    · obtain ⟨digits, value, head, nonempty⟩ := ih (n / 10) (by omega)
      obtain ⟨isDigit, digitValue, -⟩ := digit (n % 10) (Nat.mod_lt n (by decide))
      rw [toDigits_succ_digit more]
      refine ⟨fun c member => ?_, ?_, fun zero => ?_, List.append_ne_nil_of_left_ne_nil nonempty _⟩
      · rcases List.mem_append.1 member with before | last
        · exact digits c before
        · rwa [List.mem_singleton.1 last]
      · have step : digitsValue (Nat.toDigits 10 (n / 10) ++ [Nat.digitChar (n % 10)]) =
            digitsValue (Nat.toDigits 10 (n / 10)) * 10 + n % 10 := by
          rw [digitsValue, List.foldl_append, ← digitsValue]
          simp only [List.foldl_cons, List.foldl_nil, digitValue]
        rw [step, value]
        omega
      · rw [List.head?_append, List.head?_eq_some_head nonempty, Option.some_or,
          ← List.head?_eq_some_head nonempty] at zero
        have none := head zero
        omega
    · obtain ⟨isDigit, digitValue, head⟩ := digit n (by omega)
      rw [Nat.toDigits_of_lt_base (by omega)]
      refine ⟨fun c member => ?_, ?_, fun zero => ?_, List.cons_ne_nil _ _⟩
      · rwa [List.mem_singleton.1 member]
      · simpa [digitsValue] using digitValue
      · exact head (Option.some.inj zero)

/-- The digits of a number are read as it. -/
theorem readUnsigned_toDigits (negative : Bool) (n : Nat) :
    readUnsigned negative (Nat.toDigits 10 n) =
      some (.integer (if negative then -(n : Int) else n), []) := by
  obtain ⟨digits, value, head, nonempty⟩ := toDigits_spec n
  have whole : readWhole (Nat.toDigits 10 n) = some (Nat.toDigits 10 n, []) := by
    by_cases zero : n = 0
    · subst zero
      rfl
    · have taken : (Nat.toDigits 10 n ++ []).takeWhile Char.isDigit = Nat.toDigits 10 n ++ [] :=
        List.takeWhile_append_of_pos digits
      have dropped : (Nat.toDigits 10 n ++ []).dropWhile Char.isDigit = [] :=
        List.dropWhile_append_of_pos digits
      rw [List.append_nil] at taken dropped
      rw [readWhole]
      · rw [taken, dropped, List.isEmpty_eq_false_iff.2 nonempty]
        rfl
      · intro later begun
        rw [begun] at head
        exact zero (head rfl)
  rw [readUnsigned, whole]
  simp only [Option.bind_eq_bind, Option.bind_some, readFraction, readExponent, value]

/-- A whole number is read back from its text. -/
theorem readNumber_toString (n : Int) :
    readNumber (toString n).toList = some (.integer n, []) := by
  have first (m : Nat) {c : Char} (noDigit : c.isDigit = false) (later : List Char) :
      Nat.toDigits 10 m ≠ c :: later := by
    intro begun
    have digit := (toDigits_spec m).1 c (begun ▸ List.mem_cons_self)
    rw [noDigit] at digit
    cases digit
  cases n with
  | ofNat m =>
    have digits : (toString (Int.ofNat m)).toList = Nat.toDigits 10 m := String.toList_ofList
    rw [digits, readNumber, readUnsigned_toDigits]
    · rfl
    · exact first m (by decide)
    · exact first m (by decide)
    · exact fun later => first m (by decide) _
    · exact first m (by decide)
  | negSucc m =>
    have digits : (toString (Int.negSucc m)).toList = '-' :: Nat.toDigits 10 (m + 1) := by
      have written : toString (Int.negSucc m) = "-" ++ String.ofList (Nat.toDigits 10 (m + 1)) :=
        rfl
      rw [written, String.toList_append]
      exact congrArg ('-' :: ·) String.toList_ofList
    rw [digits, readNumber, readUnsigned_toDigits]
    · rfl
    · exact first (m + 1) (by decide)

/-! ## How values begin -/

/-- What a number begins with. -/
def isNumberStart (c : Char) : Bool := c.isDigit || c == '-' || c == 'N' || c == 'I'

/-- What is read as a number begins as numbers do. -/
theorem exists_of_readNumber {s rest : List Char} {value : Json}
    (read : readNumber s = some (value, rest)) :
    ∃ c tail, s = c :: tail ∧ isNumberStart c := by
  cases s with
  | nil => cases read
  | cons c tail =>
    refine ⟨c, tail, rfl, ?_⟩
    rw [← Bool.not_eq_false]
    intro noStart
    simp only [isNumberStart, Bool.or_eq_false_iff, beq_eq_false_iff_ne] at noStart
    obtain ⟨⟨⟨noDigit, noMinus⟩, noN⟩, noI⟩ := noStart
    have unread : readNumber (c :: tail) = readUnsigned false (c :: tail) := by
      rw [readNumber]
      · exact fun later begun => noN (List.cons.inj begun).1
      · exact fun later begun => noI (List.cons.inj begun).1
      · exact fun later begun => noMinus (List.cons.inj begun).1
      · exact fun later begun => noMinus (List.cons.inj begun).1
    have noWhole : readWhole (c :: tail) = none := by
      rw [readWhole]
      · rw [List.takeWhile_cons_of_neg (by simp [noDigit])]
        rfl
      · intro later begun
        rw [(List.cons.inj begun).1] at noDigit
        cases noDigit
    rw [unread, readUnsigned, noWhole] at read
    cases read

end GoBindings.Json
