import GoBindings.Proofs.Tags.Reading

/-!
# Values of struct tags

A value that is written as it is reads back as itself exactly where it has no quotation mark, no
backslash and no line feed. For the one direction it is enough to follow the reader. For the other
it is not, because the reader may end the value early or late and still find a literal there: but a
literal never denotes more bytes than it has, fewer where it has a backslash, and no fewer quotation
marks, so nothing but the value itself can denote the value. A value of which the backslashes are
doubled is told by its quotation marks and line feeds alone.
-/

namespace GoBindings.StructTag

/-! ## Bytes -/

/-- The empty text has no bytes. -/
@[simp] theorem bytes_nil : bytes [] = [] := rfl

/-- The bytes of a character stand before those of what follows it. -/
@[simp] theorem bytes_cons (c : Char) (s : List Char) :
    bytes (c :: s) = String.utf8EncodeChar c ++ bytes s := rfl

/-- The bytes of texts side by side stand side by side. -/
@[simp] theorem bytes_append (a b : List Char) : bytes (a ++ b) = bytes a ++ bytes b :=
  List.flatMap_append

/-- A character has at least one byte. -/
theorem length_utf8EncodeChar_pos (c : Char) : 0 < (String.utf8EncodeChar c).length := by
  rw [String.length_utf8EncodeChar]
  exact c.utf8Size_pos

/-- A text has at least as many bytes as characters. -/
theorem length_le_length_bytes (s : List Char) : s.length ≤ (bytes s).length := by
  induction s with
  | nil => exact Nat.le_refl 0
  | cons c rest ih =>
    have first := length_utf8EncodeChar_pos c
    rw [bytes_cons, List.length_append, List.length_cons]
    omega

/-- The bytes of a character that is no ASCII character are none of ASCII. -/
theorem ascii_not_mem_utf8EncodeChar {c : Char} (beyond : 127 < c.val.toNat) {b : UInt8}
    (ascii : b.toNat < 128) : b ∉ String.utf8EncodeChar c := by
  have none (n : Nat) (high : 128 ≤ n) (byte : n < 256) : b ≠ UInt8.ofNat n := by
    rintro rfl
    rw [UInt8.toNat_ofNat', Nat.mod_eq_of_lt byte] at ascii
    omega
  simp only [String.utf8EncodeChar, if_neg (Nat.not_le.2 beyond)]
  split
  · simp only [List.mem_cons, List.not_mem_nil, or_false, not_or]
    exact ⟨none _ (by omega) (by omega), none _ (by omega) (by omega)⟩
  · split
    · simp only [List.mem_cons, List.not_mem_nil, or_false, not_or]
      exact ⟨none _ (by omega) (by omega), none _ (by omega) (by omega),
        none _ (by omega) (by omega)⟩
    · simp only [List.mem_cons, List.not_mem_nil, or_false, not_or]
      exact ⟨none _ (by omega) (by omega), none _ (by omega) (by omega),
        none _ (by omega) (by omega), none _ (by omega) (by omega)⟩

/-- The byte of the quotation mark is in the bytes of no other character. -/
theorem count_utf8EncodeChar (c : Char) :
    (String.utf8EncodeChar c).count 34 = if c = '"' then 1 else 0 := by
  split
  · rename_i mark
    subst mark
    decide
  · rename_i other
    rw [List.count_eq_zero]
    by_cases ascii : c.val.toNat ≤ 127
    · simp only [String.utf8EncodeChar, if_pos ascii, List.mem_singleton]
      intro byte
      have code := congrArg UInt8.toNat byte
      rw [UInt8.toNat_ofNat', Nat.mod_eq_of_lt (by omega)] at code
      exact other (Char.ext (UInt32.toNat_inj.1 code.symm))
    · exact ascii_not_mem_utf8EncodeChar (Nat.lt_of_not_le ascii) (by decide)

/-- A text has as many quotation marks as its bytes. -/
theorem count_bytes (s : List Char) : (bytes s).count 34 = s.count '"' := by
  induction s with
  | nil => rfl
  | cons c rest ih =>
    rw [bytes_cons, List.count_append, ih, count_utf8EncodeChar, List.count_cons, Nat.add_comm]
    simp

/-! ## Literals -/

/-- A text that a quoted value can hold as it is. -/
structure IsPlain (s : List Char) : Prop where
  /-- Nothing ends the value. -/
  noMark : '"' ∉ s
  /-- Nothing is an escape. -/
  noBackslash : '\\' ∉ s
  /-- The value stands on one line. -/
  noLineFeed : '\n' ∉ s

/-- What a literal and the bytes that it denotes have to do with each other. -/
structure Denotes (s : List Char) (value : List UInt8) : Prop where
  /-- A literal never denotes more bytes than it has. -/
  length_le : value.length ≤ (bytes s).length
  /-- It denotes fewer where it has a backslash. -/
  length_lt : '\\' ∈ s → value.length < (bytes s).length
  /-- Quotation marks are not lost. -/
  quotes : s.count '"' ≤ value.count 34
  /-- A quotation mark needs a backslash. -/
  escaped : '"' ∈ s → '\\' ∈ s
  /-- A literal stands on one line. -/
  noLineFeed : '\n' ∉ s

namespace Denotes

/-- The empty literal denotes no bytes. -/
theorem nil : Denotes [] [] :=
  ⟨Nat.le_refl 0, (nomatch ·), Nat.le_refl 0, (nomatch ·), List.not_mem_nil⟩

/-- A character that is no mark, no backslash and no line feed denotes its bytes. -/
theorem cons {s : List Char} {value : List UInt8} (tail : Denotes s value) {c : Char}
    (mark : c ≠ '"') (backslash : c ≠ '\\') (feed : c ≠ '\n') :
    Denotes (c :: s) (String.utf8EncodeChar c ++ value) := by
  refine ⟨?_, fun member => ?_, ?_, fun member => ?_, ?_⟩
  · rw [bytes_cons, List.length_append, List.length_append]
    exact Nat.add_le_add_left tail.length_le _
  · rw [bytes_cons, List.length_append, List.length_append]
    have later := (List.mem_cons.1 member).resolve_left (Ne.symm backslash)
    exact Nat.add_lt_add_left (tail.length_lt later) _
  · rw [List.count_append, count_utf8EncodeChar, if_neg mark, Nat.zero_add,
      List.count_cons_of_ne mark]
    exact tail.quotes
  · exact List.mem_cons_of_mem c
      (tail.escaped ((List.mem_cons.1 member).resolve_left (Ne.symm mark)))
  · exact mt List.mem_cons.1 (not_or.2 ⟨Ne.symm feed, tail.noLineFeed⟩)

/-- A backslash with what it takes denotes what the escape does. -/
theorem escape {s : List Char} {value : List UInt8} (tail : Denotes s value) {taken : List Char}
    {denoted : List UInt8} (escapes : Escapes taken denoted) :
    Denotes ('\\' :: (taken ++ s)) (denoted ++ value) := by
  have fewer : (denoted ++ value).length < (bytes ('\\' :: (taken ++ s))).length := by
    have taken_bytes := length_le_length_bytes taken
    have backslash := length_utf8EncodeChar_pos '\\'
    have denoted_le := escapes.length_le
    have value_le := tail.length_le
    simp only [bytes_cons, bytes_append, List.length_append]
    omega
  refine ⟨Nat.le_of_lt fewer, fun _ => fewer, ?_, fun _ => List.mem_cons_self, ?_⟩
  · rw [List.count_cons_of_ne (by decide), List.count_append, List.count_append]
    exact Nat.add_le_add escapes.quotes tail.quotes
  · refine mt List.mem_cons.1 (not_or.2 ⟨by decide, mt List.mem_append.1 (not_or.2 ?_)⟩)
    exact ⟨escapes.noLineFeed, tail.noLineFeed⟩

end Denotes

/-- A literal that is read denotes what was read. -/
theorem denotes_of_unquote {s : List Char} {value : List UInt8} (read : unquote s = some value) :
    Denotes s value := by
  fun_induction unquote s generalizing value with
  | case1 =>
    cases read
    exact .nil
  | case2 => cases read
  | case3 => cases read
  | case4 rest denoted later escaped ordinary ih =>
    obtain ⟨others, known, rfl⟩ := Option.map_eq_some_iff.1 read
    obtain ⟨taken, rfl, escapes⟩ := exists_of_readEscape escaped
    exact (ih known).escape escapes
  | case5 c rest ordinary backslash ih =>
    obtain ⟨others, known, rfl⟩ := Option.map_eq_some_iff.1 read
    obtain ⟨mark, feed⟩ := not_or.1 ordinary
    exact (ih known).cons mark backslash feed

/-- A plain text denotes its bytes. -/
theorem unquote_of_isPlain {s : List Char} (plain : IsPlain s) : unquote s = some (bytes s) := by
  induction s with
  | nil => rw [unquote]; rfl
  | cons c rest ih =>
    obtain ⟨mark, noMark⟩ := not_or.1 (mt List.mem_cons.2 plain.noMark)
    obtain ⟨backslash, noBackslash⟩ := not_or.1 (mt List.mem_cons.2 plain.noBackslash)
    obtain ⟨feed, noLineFeed⟩ := not_or.1 (mt List.mem_cons.2 plain.noLineFeed)
    rw [unquote, if_neg (not_or.2 ⟨Ne.symm mark, Ne.symm feed⟩), if_neg (Ne.symm backslash),
      ih ⟨noMark, noBackslash, noLineFeed⟩]
    rfl

/-- A text with its backslashes doubled denotes its bytes unless a mark or a line feed is in it. -/
theorem unquote_doubled {s : List Char} {value : List UInt8} :
    unquote (s.flatMap doubleBackslash) = some value ↔
      ('"' ∉ s ∧ '\n' ∉ s) ∧ value = bytes s := by
  induction s generalizing value with
  | nil =>
    rw [List.flatMap_nil, unquote]
    simp [eq_comm]
  | cons c rest ih =>
    rw [List.flatMap_cons, doubleBackslash]
    by_cases backslash : c = '\\'
    · subst backslash
      have escape : unquote ('\\' :: '\\' :: rest.flatMap doubleBackslash) =
          (unquote (rest.flatMap doubleBackslash)).map ([92] ++ ·) := by
        rw [unquote, if_neg (by decide), if_pos rfl]
        rfl
      rw [if_pos rfl, List.cons_append, List.cons_append, List.nil_append, escape,
        Option.map_eq_some_iff, bytes_cons]
      have byte : String.utf8EncodeChar '\\' = [92] := by decide
      simp only [ih, byte, List.mem_cons, Char.reduceEq, false_or]
      constructor
      · rintro ⟨others, ⟨clean, rfl⟩, rfl⟩
        exact ⟨clean, rfl⟩
      · rintro ⟨clean, rfl⟩
        exact ⟨_, ⟨clean, rfl⟩, rfl⟩
    · rw [if_neg backslash, List.cons_append, List.nil_append, unquote, if_neg backslash]
      by_cases ends : c = '"' ∨ c = '\n'
      · rw [if_pos ends]
        rcases ends with rfl | rfl
        · simp
        · simp
      · obtain ⟨mark, feed⟩ := not_or.1 ends
        rw [if_neg ends, Option.map_eq_some_iff, bytes_cons]
        simp only [ih, List.mem_cons, Ne.symm mark, Ne.symm feed, false_or]
        constructor
        · rintro ⟨others, ⟨clean, rfl⟩, rfl⟩
          exact ⟨clean, rfl⟩
        · rintro ⟨clean, rfl⟩
          exact ⟨_, ⟨clean, rfl⟩, rfl⟩

/-! ## Quoted values -/

/-- A value is read where it can be cut and denotes bytes. -/
theorem readQuoted_eq_some_iff {s rest : List Char} {value : List UInt8} :
    readQuoted s = some (value, rest) ↔
      ∃ body, cutQuoted s = some (body, rest) ∧ unquote body = some value := by
  simp only [readQuoted, Option.bind_eq_bind, Option.bind_eq_some_iff, Prod.exists,
    Option.some.injEq, Prod.mk.injEq]
  constructor
  · rintro ⟨body, other, cut, bytes, known, rfl, rfl⟩
    exact ⟨body, cut, known⟩
  · rintro ⟨body, cut, known⟩
    exact ⟨body, rest, cut, value, known, rfl, rfl⟩

/-- A text without quotation marks and backslashes is cut at the mark behind it. -/
theorem cutQuoted_append {s : List Char} (noMark : '"' ∉ s) (noBackslash : '\\' ∉ s)
    (rest : List Char) : cutQuoted (s ++ '"' :: rest) = some (s, rest) := by
  induction s with
  | nil => rfl
  | cons c tail ih =>
    obtain ⟨mark, noMarkLater⟩ := not_or.1 (mt List.mem_cons.2 noMark)
    obtain ⟨backslash, noBackslashLater⟩ := not_or.1 (mt List.mem_cons.2 noBackslash)
    rw [List.cons_append, cutQuoted, ih noMarkLater noBackslashLater]
    · rfl
    · exact Ne.symm mark
    · exact fun d _ same _ => absurd same.symm backslash

/-- A text without quotation marks and with its backslashes doubled is cut at the mark behind it. -/
theorem cutQuoted_doubled {s : List Char} (noMark : '"' ∉ s) (rest : List Char) :
    cutQuoted (s.flatMap doubleBackslash ++ '"' :: rest) =
      some (s.flatMap doubleBackslash, rest) := by
  induction s with
  | nil => rfl
  | cons c tail ih =>
    obtain ⟨mark, noMarkLater⟩ := not_or.1 (mt List.mem_cons.2 noMark)
    rw [List.flatMap_cons, doubleBackslash]
    by_cases backslash : c = '\\'
    · subst backslash
      rw [if_pos rfl, List.append_assoc, List.cons_append, List.cons_append, List.nil_append,
        cutQuoted, ih noMarkLater]
      rfl
    · rw [if_neg backslash, List.append_assoc, List.cons_append, List.nil_append, cutQuoted,
        ih noMarkLater]
      · rfl
      · exact Ne.symm mark
      · exact fun d _ same _ => absurd same backslash

/-- A text that denotes its own bytes is plain. -/
theorem isPlain_of_unquote {s : List Char} (known : unquote s = some (bytes s)) : IsPlain s := by
  have denotes := denotes_of_unquote known
  have noBackslash : '\\' ∉ s := fun member =>
    absurd (denotes.length_lt member) (Nat.lt_irrefl _)
  exact ⟨mt denotes.escaped noBackslash, noBackslash, denotes.noLineFeed⟩

/-- What is cut off and denotes the bytes of the text that was written is that text: a longer value
would have a quotation mark more than what it denotes, and a shorter one fewer bytes. -/
theorem eq_of_cutQuoted_written {s body rest after : List Char}
    (cut : cutQuoted (s ++ '"' :: rest) = some (body, after))
    (known : unquote body = some (bytes s)) : body = s ∧ after = rest := by
  have denotes := denotes_of_unquote known
  rcases List.append_eq_append_iff.1 (eq_of_cutQuoted cut) with
    ⟨late, begun, ended⟩ | ⟨early, begun, ended⟩
  · cases late with
    | nil =>
      cases ended
      exact ⟨by rw [begun, List.append_nil], rfl⟩
    | cons c later =>
      cases ended
      have marks := denotes.quotes
      rw [begun, List.count_append, List.count_cons_self, count_bytes] at marks
      omega
  · cases early with
    | nil =>
      cases ended
      exact ⟨by rw [begun, List.append_nil], rfl⟩
    | cons c later =>
      have length_le := denotes.length_le
      have more := length_utf8EncodeChar_pos c
      rw [begun, bytes_append, bytes_cons, List.length_append, List.length_append] at length_le
      omega

/-- A value that is written as it is reads back as itself where it is plain, and else it does not,
wherever the reader may have ended it. -/
theorem readQuoted_written_iff {s rest after : List Char} :
    readQuoted (s ++ '"' :: rest) = some (bytes s, after) ↔ IsPlain s ∧ after = rest := by
  rw [readQuoted_eq_some_iff]
  constructor
  · rintro ⟨body, cut, known⟩
    obtain ⟨rfl, rfl⟩ := eq_of_cutQuoted_written cut known
    exact ⟨isPlain_of_unquote known, rfl⟩
  · rintro ⟨plain, rfl⟩
    exact ⟨s, cutQuoted_append plain.noMark plain.noBackslash _, unquote_of_isPlain plain⟩

/-- A value with its backslashes doubled reads back as a text that has a quotation mark if it has
one itself only where it has neither such a mark nor a line feed, and only as itself. With a mark
the value ends at the first, and what stands before it denotes no mark. -/
theorem readQuoted_doubled_iff {s shown rest after : List Char} (marked : '"' ∈ s → '"' ∈ shown) :
    readQuoted (s.flatMap doubleBackslash ++ '"' :: rest) = some (bytes shown, after) ↔
      ('"' ∉ s ∧ '\n' ∉ s) ∧ bytes shown = bytes s ∧ after = rest := by
  rw [readQuoted_eq_some_iff]
  by_cases member : '"' ∈ s
  · refine iff_of_false ?_ fun clean => clean.1.1 member
    rintro ⟨body, cut, known⟩
    obtain ⟨before, behind, rfl, clean⟩ := List.eq_append_cons_of_mem member
    have written : (before ++ '"' :: behind).flatMap doubleBackslash ++ '"' :: rest =
        before.flatMap doubleBackslash ++
          '"' :: (behind.flatMap doubleBackslash ++ '"' :: rest) := by
      rw [List.flatMap_append, List.append_assoc]
      rfl
    rw [written, cutQuoted_doubled clean] at cut
    cases cut
    obtain ⟨-, same⟩ := unquote_doubled.1 known
    have none := congrArg (List.count 34) same
    rw [count_bytes, count_bytes, List.count_eq_zero.2 clean, List.count_eq_zero] at none
    exact none (marked member)
  · rw [cutQuoted_doubled member]
    constructor
    · rintro ⟨body, cut, known⟩
      cases cut
      obtain ⟨clean, same⟩ := unquote_doubled.1 known
      exact ⟨clean, same, rfl⟩
    · rintro ⟨clean, same, rfl⟩
      exact ⟨_, rfl, unquote_doubled.2 ⟨clean, same⟩⟩

end GoBindings.StructTag
