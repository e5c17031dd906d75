import GoBindings.Json.Reader
import GoBindings.StructTag

/-!
# How Go reads struct tags

A struct tag is read as pairs of a key and a quoted value with blanks between them. The value ends
at the first quotation mark that no backslash takes along, and what stands between the marks is read
as an interpreted string literal: it denotes bytes, escapes name a byte or a character by a letter
or by digits, and a line feed or a backslash that begins no escape makes it malformed. A malformed
pair leaves the tag unread. Every step takes something off the front of the text, so reading ends.
-/

namespace GoBindings.StructTag

/-! ## The convention -/

/-- The bytes of a text. -/
def bytes (s : List Char) : List UInt8 := s.flatMap String.utf8EncodeChar

/-- The byte that a letter behind a backslash stands for. -/
def letterEscape? : Char → Option UInt8
  | 'a' => some 7
  | 'b' => some 8
  | 't' => some 9
  | 'n' => some 10
  | 'v' => some 11
  | 'f' => some 12
  | 'r' => some 13
  | '"' => some 34
  | '\\' => some 92
  | _ => none

/-- The value of an octal digit. -/
def octalValue? (c : Char) : Option Nat :=
  if '0' ≤ c ∧ c ≤ '7' then some (c.toNat - '0'.toNat) else none

/-- The number that continues another by so many digits. -/
def readDigits (base : Nat) (digit? : Char → Option Nat) :
    Nat → Nat → List Char → Option (Nat × List Char)
  | 0, value, s => some (value, s)
  | _ + 1, _, [] => none
  | more + 1, value, c :: rest =>
    match digit? c with
    | some digit => readDigits base digit? more (value * base + digit) rest
    | none => none

/-- A byte given by so many digits. -/
def readByte (base : Nat) (digit? : Char → Option Nat) (count : Nat) (s : List Char) :
    Option (List UInt8 × List Char) := do
  let (value, rest) ← readDigits base digit? count 0 s
  if value < 256 then some ([value.toUInt8], rest) else none

/-- A character given by so many hexadecimal digits. -/
def readCodePoint (count : Nat) (s : List Char) : Option (List UInt8 × List Char) := do
  let (value, rest) ← readDigits 16 Json.hexValue? count 0 s
  if value.isValidChar then some (String.utf8EncodeChar (Char.ofNat value), rest) else none

/-- What an escape denotes, from behind its backslash. -/
def readEscape : List Char → Option (List UInt8 × List Char)
  | [] => none
  | c :: rest =>
    match letterEscape? c with
    | some byte => some ([byte], rest)
    | none =>
      if c = 'x' then readByte 16 Json.hexValue? 2 rest
      else if c = 'u' then readCodePoint 4 rest
      else if c = 'U' then readCodePoint 8 rest
      else readByte 8 octalValue? 3 (c :: rest)

/-- Digits are taken off the front of the text. -/
theorem exists_of_readDigits {base : Nat} {digit? : Char → Option Nat} {count value : Nat}
    {s rest : List Char} {result : Nat}
    (read : readDigits base digit? count value s = some (result, rest)) :
    ∃ taken, s = taken ++ rest ∧ taken.length = count ∧ ∀ c ∈ taken, (digit? c).isSome := by
  induction count generalizing value s with
  | zero =>
    cases read
    exact ⟨[], rfl, rfl, fun c member => absurd member List.not_mem_nil⟩
  | succ more ih =>
    cases s with
    | nil => cases read
    | cons c tail =>
      rw [readDigits] at read
      split at read
      · rename_i digit known
        obtain ⟨taken, rfl, long, digits⟩ := ih read
        refine ⟨c :: taken, rfl, by rw [List.length_cons, long], fun d member => ?_⟩
        rcases List.mem_cons.1 member with rfl | later
        · rw [known]
          rfl
        · exact digits d later
      · cases read

/-- Neither a quotation mark nor a line feed is a digit. -/
theorem not_mem_of_digits {digit? : Char → Option Nat} (mark : digit? '"' = none)
    (feed : digit? '\n' = none) {taken : List Char} (digits : ∀ c ∈ taken, (digit? c).isSome) :
    '"' ∉ taken ∧ '\n' ∉ taken := by
  constructor
  · intro member
    have known := digits _ member
    rw [mark] at known
    cases known
  · intro member
    have known := digits _ member
    rw [feed] at known
    cases known

/-- What an escape takes and what it denotes: at most a byte for each character behind its
backslash, a quotation mark for each that it takes, and no line feed. -/
structure Escapes (taken : List Char) (denoted : List UInt8) : Prop where
  /-- Something stands behind the backslash. -/
  nonempty : taken ≠ []
  /-- There are not more bytes than characters. -/
  length_le : denoted.length ≤ taken.length
  /-- Quotation marks are not lost. -/
  quotes : taken.count '"' ≤ denoted.count 34
  /-- A line feed is no escape. -/
  noLineFeed : '\n' ∉ taken

/-- A character has at most four bytes. -/
theorem length_utf8EncodeChar_le (c : Char) : (String.utf8EncodeChar c).length ≤ 4 := by
  rw [String.length_utf8EncodeChar]
  exact c.utf8Size_le_four

/-- An escape by digits is one. -/
theorem escapes_of_digits {digit? : Char → Option Nat} (mark : digit? '"' = none)
    (feed : digit? '\n' = none) {start taken : List Char} {denoted : List UInt8}
    (begun : start.length + taken.length ≠ 0) (clean : '"' ∉ start ∧ '\n' ∉ start)
    (digits : ∀ c ∈ taken, (digit? c).isSome)
    (length_le : denoted.length ≤ start.length + taken.length) :
    Escapes (start ++ taken) denoted := by
  obtain ⟨noMark, noFeed⟩ := not_mem_of_digits mark feed digits
  refine ⟨fun empty => begun ?_, ?_, ?_, ?_⟩
  · rw [← List.length_append, empty, List.length_nil]
  · rwa [List.length_append]
  · have none : (start ++ taken).count '"' = 0 := by
      rw [List.count_append, List.count_eq_zero.2 clean.1, List.count_eq_zero.2 noMark]
    omega
  · rw [List.mem_append]
    exact not_or.2 ⟨clean.2, noFeed⟩

/-- A byte by digits, behind a start, is an escape. -/
theorem escapes_of_readByte {base count : Nat} {digit? : Char → Option Nat}
    (mark : digit? '"' = none) (feed : digit? '\n' = none) (some_digits : count ≠ 0)
    {s rest : List Char} {denoted : List UInt8} (start : List Char)
    (clean : '"' ∉ start ∧ '\n' ∉ start)
    (read : readByte base digit? count s = some (denoted, rest)) :
    ∃ taken, start ++ s = taken ++ rest ∧ Escapes taken denoted := by
  rw [readByte] at read
  obtain ⟨⟨value, after⟩, number, last⟩ := Option.bind_eq_some_iff.1 read
  dsimp only at last
  split at last
  · cases last
    obtain ⟨taken, rfl, long, digits⟩ := exists_of_readDigits number
    refine ⟨start ++ taken, by rw [List.append_assoc], ?_⟩
    exact escapes_of_digits mark feed (by omega) clean digits (by simp; omega)
  · cases last

/-- A character by at least three digits, behind a start of one character, is an escape. -/
theorem escapes_of_readCodePoint {count : Nat} (digits_needed : 3 ≤ count) {c : Char}
    {s rest : List Char} {denoted : List UInt8} (clean : '"' ∉ [c] ∧ '\n' ∉ [c])
    (read : readCodePoint count s = some (denoted, rest)) :
    ∃ taken, c :: s = taken ++ rest ∧ Escapes taken denoted := by
  rw [readCodePoint] at read
  obtain ⟨⟨value, after⟩, number, last⟩ := Option.bind_eq_some_iff.1 read
  dsimp only at last
  split at last
  · cases last
    obtain ⟨taken, rfl, long, digits⟩ := exists_of_readDigits number
    refine ⟨[c] ++ taken, by simp, ?_⟩
    have size := length_utf8EncodeChar_le (Char.ofNat value)
    exact escapes_of_digits (by decide) (by decide) (by simp) clean digits
      (by rw [List.length_singleton]; omega)
  · cases last

/-- An escape takes something off the front of the text. -/
theorem exists_of_readEscape {s rest : List Char} {denoted : List UInt8}
    (read : readEscape s = some (denoted, rest)) :
    ∃ taken, s = taken ++ rest ∧ Escapes taken denoted := by
  cases s with
  | nil => cases read
  | cons c tail =>
    rw [readEscape] at read
    split at read
    · rename_i byte letter
      cases read
      refine ⟨[c], rfl, List.cons_ne_nil _ _, Nat.le_refl 1, ?_, ?_⟩
      · by_cases mark : c = '"'
        · subst mark
          cases letter
          decide
        · simp [mark]
      · intro member
        obtain rfl := List.mem_singleton.1 member
        cases letter
    · split at read
      · rename_i letter
        exact escapes_of_readByte (by decide) (by decide) (by decide) [c]
          (by subst letter; decide) read
      · split at read
        · rename_i letter
          exact escapes_of_readCodePoint (by decide) (by subst letter; decide) read
        · split at read
          · rename_i letter
            exact escapes_of_readCodePoint (by decide) (by subst letter; decide) read
          · exact escapes_of_readByte (by decide) (by decide) (by decide) [] (by decide) read

/-- The bytes that the text between quotation marks denotes. -/
def unquote (s : List Char) : Option (List UInt8) :=
  match s with
  | [] => some []
  | c :: rest =>
    if c = '"' ∨ c = '\n' then none
    else if c = '\\' then
      match _ : readEscape rest with
      | none => none
      | some (denoted, later) => (unquote later).map (denoted ++ ·)
    else (unquote rest).map (String.utf8EncodeChar c ++ ·)
termination_by s.length
decreasing_by
  · rename_i read
    obtain ⟨taken, rfl, -⟩ := exists_of_readEscape read
    simp only [List.length_cons, List.length_append]
    omega
  · exact Nat.lt_succ_self _

/-- The text before the closing quotation mark and the text after it. -/
def cutQuoted : List Char → Option (List Char × List Char)
  | [] => none
  | '"' :: rest => some ([], rest)
  | '\\' :: c :: rest => (cutQuoted rest).map fun (body, rest) => ('\\' :: c :: body, rest)
  | c :: rest => (cutQuoted rest).map fun (body, rest) => (c :: body, rest)

/-- The bytes of a value, from behind its opening quotation mark. -/
def readQuoted (s : List Char) : Option (List UInt8 × List Char) := do
  let (body, rest) ← cutQuoted s
  let value ← unquote body
  some (value, rest)

/-- What a key consists of: all above the blank but the colon, the quotation mark and the delete
character. -/
def isKeyChar (c : Char) : Bool := ' ' < c && c != ':' && c != '"' && c != '\x7f'

/-- One pair, with a blank or nothing behind it. -/
def readPair (s : List Char) : Option ((String × List UInt8) × List Char) :=
  match s.dropWhile isKeyChar with
  | ':' :: '"' :: quoted => do
    let (value, rest) ← readQuoted quoted
    let key := String.ofList (s.takeWhile isKeyChar)
    if key.isEmpty || !rest.head?.all (· == ' ') then none else some ((key, value), rest)
  | _ => none

/-- What is cut is the text before and after a quotation mark. -/
theorem eq_of_cutQuoted {s body rest : List Char} (cut : cutQuoted s = some (body, rest)) :
    s = body ++ '"' :: rest := by
  fun_induction cutQuoted s generalizing body with
  | case1 => cases cut
  | case2 => cases cut; rfl
  | case3 c tail ih =>
    obtain ⟨⟨inner, after⟩, later, same⟩ := Option.map_eq_some_iff.1 cut
    cases same
    rw [ih later]
    rfl
  | case4 c tail _ _ ih =>
    obtain ⟨⟨inner, after⟩, later, same⟩ := Option.map_eq_some_iff.1 cut
    cases same
    rw [ih later]
    rfl

/-- A pair takes something off the front of the text. -/
theorem length_readPair_lt {s rest : List Char} {pair : String × List UInt8}
    (read : readPair s = some (pair, rest)) : rest.length < s.length := by
  have whole := List.takeWhile_append_dropWhile (p := isKeyChar) (l := s)
  rw [readPair] at read
  split at read
  · rename_i quoted opened
    obtain ⟨⟨value, after⟩, valued, last⟩ := Option.bind_eq_some_iff.1 read
    obtain ⟨⟨body, tail⟩, cut, other⟩ := Option.bind_eq_some_iff.1 valued
    obtain ⟨denoted, -, same⟩ := Option.bind_eq_some_iff.1 other
    cases same
    dsimp only at last
    split at last
    · cases last
    · cases last
      rw [opened, eq_of_cutQuoted cut] at whole
      rw [← whole]
      simp only [List.length_append, List.length_cons]
      omega
  · cases read

/-- The pairs of a text. -/
def readPairs (s : List Char) : Option (List (String × List UInt8)) :=
  match s with
  | [] => some []
  | c :: rest =>
    if c = ' ' then readPairs rest
    else
      match _ : readPair (c :: rest) with
      | none => none
      | some (pair, later) => (readPairs later).map (pair :: ·)
termination_by s.length
decreasing_by
  · exact Nat.lt_succ_self _
  · rename_i read
    exact length_readPair_lt read

end GoBindings.StructTag
