import GoBindings.Literal
import GoBindings.Proofs.Tags.Values

/-!
# What literals denote

A literal is told by reading it: its closing mark is the first quotation mark that no backslash
takes along, and what stands before that denotes the text that comes out when the escapes are undone
from left to right, as it does where Go reads it. Escapes are made one kind after the other over the
whole text. None of them touches what was written for those before it, so together they escape each
character on its own, and that is undone character by character. The main statements: the literal of
a tag and that of an enumerated value denote what they were made of, so different texts have
different literals.
-/

namespace GoBindings

namespace Chars

/-! ## Undoing escapes -/

/-- A text with its escapes undone from left to right, where it is known what a letter behind a
backslash stands for. A backslash that begins no escape leaves the text unread. -/
def unescape (symbol? : Char → Option Char) : List Char → Option (List Char)
  | [] => some []
  | '\\' :: letter :: rest => do
    let symbol ← symbol? letter
    let text ← unescape symbol? rest
    some (symbol :: text)
  | c :: rest => if c = '\\' then none else (unescape symbol? rest).map (c :: ·)

/-! ## Escapes made one kind after the other -/

open Text (escapeChar)

/-- The written form of a character: the character with all escapes made in it. -/
def escaped (escapes : List (Char × Char)) (c : Char) : List Char :=
  escapes.foldl (fun word entry => word.flatMap (escapeChar entry.1 entry.2)) [c]

/-- A word without the character is left as it is. -/
theorem flatMap_escapeChar {symbol letter : Char} {word : List Char} (absent : symbol ∉ word) :
    word.flatMap (escapeChar symbol letter) = word := by
  induction word with
  | nil => rfl
  | cons c rest ih =>
    obtain ⟨other, later⟩ := not_or.1 (mt List.mem_cons.2 absent)
    rw [List.flatMap_cons, escapeChar, if_neg (Ne.symm other), ih later, List.singleton_append]

/-- A word without any of the characters is left as it is by all escapes. -/
theorem foldl_escapeChar {escapes : List (Char × Char)} {word : List Char}
    (absent : ∀ entry ∈ escapes, entry.1 ∉ word) :
    escapes.foldl (fun word entry => word.flatMap (escapeChar entry.1 entry.2)) word = word := by
  induction escapes with
  | nil => rfl
  | cons entry rest ih =>
    have here := absent entry List.mem_cons_self
    rw [List.foldl_cons, flatMap_escapeChar here]
    exact ih fun later member => absent later (List.mem_cons_of_mem entry member)

/-- Escapes that can be undone: a reader and Go know their letters, and none touches those before
it. -/
structure AreReadBy (escapes : List (Char × Char)) (symbol? : Char → Option Char) : Prop where
  /-- What an escape writes is no character that is escaped later. -/
  inOrder : escapes.Pairwise fun earlier later => later.1 ≠ '\\' ∧ later.1 ≠ earlier.2
  /-- The reader knows each letter. -/
  reads : ∀ entry ∈ escapes, symbol? entry.2 = some entry.1
  /-- Go has the escape. -/
  letters : ∀ entry ∈ escapes,
    (StructTag.letterEscape? entry.2).map ([·]) = some (String.utf8EncodeChar entry.1)
  /-- What cannot stand in a literal as it is, is escaped. -/
  special : ['\\', '"', '\n'] ⊆ escapes.map Prod.fst

/-- Where no escape touches those before it, a character becomes its escape if it has one, and stays
as it is if it has none. An escape that was written stays, because no later one finds anything in
it. -/
theorem escaped_cases {escapes : List (Char × Char)}
    (inOrder : escapes.Pairwise fun earlier later => later.1 ≠ '\\' ∧ later.1 ≠ earlier.2)
    (c : Char) :
    (∃ letter, (c, letter) ∈ escapes ∧ escaped escapes c = ['\\', letter]) ∨
      (c ∉ escapes.map Prod.fst ∧ escaped escapes c = [c]) := by
  induction escapes with
  | nil => exact .inr ⟨List.not_mem_nil, rfl⟩
  | cons entry rest ih =>
    obtain ⟨symbol, letter⟩ := entry
    obtain ⟨untouched, later⟩ := List.pairwise_cons.1 inOrder
    by_cases same : c = symbol
    · have first : [c].flatMap (escapeChar symbol letter) = ['\\', letter] := by
        rw [List.flatMap_singleton, escapeChar, if_pos same]
      have absent : ∀ entry ∈ rest, entry.1 ∉ ['\\', letter] := by
        intro entry member there
        obtain ⟨noBackslash, noLetter⟩ := untouched entry member
        rcases List.mem_cons.1 there with backslash | last
        · exact noBackslash backslash
        · exact noLetter (List.mem_singleton.1 last)
      refine .inl ⟨letter, same ▸ List.mem_cons_self, ?_⟩
      rw [escaped, List.foldl_cons, first, foldl_escapeChar absent]
    · have first : [c].flatMap (escapeChar symbol letter) = [c] :=
        flatMap_escapeChar (mt List.mem_singleton.1 (Ne.symm same))
      have others : escaped ((symbol, letter) :: rest) c = escaped rest c := by
        rw [escaped, List.foldl_cons, first, escaped]
      rw [others]
      rcases ih later with ⟨known, member, written⟩ | ⟨absent, kept⟩
      · exact .inl ⟨known, List.mem_cons_of_mem _ member, written⟩
      · refine .inr ⟨?_, kept⟩
        rw [List.map_cons, List.mem_cons]
        exact not_or.2 ⟨same, absent⟩

section Reading

variable {escapes : List (Char × Char)} {symbol? : Char → Option Char}
  (readBy : AreReadBy escapes symbol?)

include readBy

/-- A character without an escape can stand in a literal as it is. -/
theorem AreReadBy.ordinary {c : Char} (absent : c ∉ escapes.map Prod.fst) :
    c ≠ '\\' ∧ c ≠ '"' ∧ c ≠ '\n' := by
  have apart : c ∉ ['\\', '"', '\n'] := fun special => absent (readBy.special special)
  simpa only [List.mem_cons, List.not_mem_nil, or_false, not_or] using apart

/-- Undoing the escapes of a text gives it back. -/
theorem AreReadBy.unescape_escaped (s : List Char) :
    unescape symbol? (s.flatMap (escaped escapes)) = some s := by
  induction s with
  | nil => rfl
  | cons c rest ih =>
    rw [List.flatMap_cons]
    rcases escaped_cases readBy.inOrder c with ⟨letter, entry, written⟩ | ⟨absent, kept⟩
    · have known := readBy.reads _ entry
      rw [written, List.cons_append, List.singleton_append, unescape, known, ih]
      rfl
    · obtain ⟨noBackslash, -, -⟩ := readBy.ordinary absent
      rw [kept, List.singleton_append, unescape, if_neg noBackslash, ih]
      · rfl
      · exact fun _ _ backslash _ => noBackslash backslash

/-- The first quotation mark that no backslash takes along is the one behind the escaped text. -/
theorem AreReadBy.cutQuoted_escaped (s rest : List Char) :
    StructTag.cutQuoted (s.flatMap (escaped escapes) ++ '"' :: rest) =
      some (s.flatMap (escaped escapes), rest) := by
  induction s with
  | nil => rfl
  | cons c tail ih =>
    rw [List.flatMap_cons, List.append_assoc]
    rcases escaped_cases readBy.inOrder c with ⟨letter, -, written⟩ | ⟨absent, kept⟩
    · rw [written, List.cons_append, List.singleton_append, StructTag.cutQuoted, ih]
      rfl
    · obtain ⟨noBackslash, noMark, -⟩ := readBy.ordinary absent
      rw [kept, List.singleton_append, StructTag.cutQuoted, ih]
      · rfl
      · exact noMark
      · exact fun _ _ backslash _ => noBackslash backslash

/-- Go reads an escaped text as the text: what an escape stands for, and then what follows it. -/
theorem AreReadBy.unquote_escaped (s : List Char) :
    StructTag.unquote (s.flatMap (escaped escapes)) = some (StructTag.bytes s) := by
  induction s with
  | nil =>
    rw [List.flatMap_nil, StructTag.unquote]
    rfl
  | cons c tail ih =>
    rw [List.flatMap_cons, StructTag.bytes_cons]
    rcases escaped_cases readBy.inOrder c with ⟨letter, entry, written⟩ | ⟨absent, kept⟩
    · obtain ⟨byte, known, alone⟩ := Option.map_eq_some_iff.1 (readBy.letters _ entry)
      have escape : StructTag.readEscape (letter :: tail.flatMap (escaped escapes)) =
          some ([byte], tail.flatMap (escaped escapes)) := by
        rw [StructTag.readEscape, known]
      rw [written, List.cons_append, List.singleton_append, StructTag.unquote,
        if_neg (by decide), if_pos rfl, ← alone]
      split
      · rename_i unread
        rw [escape] at unread
        cases unread
      · rename_i read
        rw [escape] at read
        cases read
        rw [ih]
        rfl
    · obtain ⟨noBackslash, noMark, noLineFeed⟩ := readBy.ordinary absent
      rw [kept, List.singleton_append, StructTag.unquote, if_neg (not_or.2 ⟨noMark, noLineFeed⟩),
        if_neg noBackslash, ih]
      rfl

/-- A character that is escaped and is no letter of an escape does not stand in an escaped text. -/
theorem AreReadBy.not_mem_escaped {c : Char} (symbol : c ∈ escapes.map Prod.fst)
    (noBackslash : c ≠ '\\') (noLetter : c ∉ escapes.map Prod.snd) (s : List Char) :
    c ∉ s.flatMap (escaped escapes) := by
  intro member
  obtain ⟨d, -, there⟩ := List.mem_flatMap.1 member
  rcases escaped_cases readBy.inOrder d with ⟨letter, entry, written⟩ | ⟨absent, kept⟩
  · rw [written, List.mem_cons, List.mem_singleton] at there
    rcases there with backslash | rfl
    · exact noBackslash backslash
    · exact noLetter (List.mem_map_of_mem entry)
  · rw [kept, List.mem_singleton] at there
    exact absent (there ▸ symbol)

end Reading

end Chars

/-! ## Literals -/

open Chars (AreReadBy unescape)

/-- The characters of an escaped text. -/
theorem Text.toList_escape (escapes : List (Char × Char)) (s : String) :
    (escape escapes s).toList = s.toList.flatMap (Chars.escaped escapes) :=
  toList_foldl_replaceChars (fun entry : Char × Char => escapeChar entry.1 entry.2) escapes s

/-- What stands between the quotation marks of a literal that denotes a text. -/
structure IsLiteralOf (symbol? : Char → Option Char) (text body : String) : Prop where
  /-- No quotation mark in it is without a backslash, and the one behind it has none. -/
  closed : ∀ rest, StructTag.cutQuoted (body.toList ++ '"' :: rest) = some (body.toList, rest)
  /-- Undoing the escapes gives the text. -/
  denotes : unescape symbol? body.toList = some text.toList
  /-- Go reads it as the text. -/
  read : StructTag.unquote body.toList = some (StructTag.bytes text.toList)

/-- An escaped text is what stands in its literal. -/
theorem isLiteralOf_escape {escapes : List (Char × Char)} {symbol? : Char → Option Char}
    (readBy : AreReadBy escapes symbol?) (text : String) :
    IsLiteralOf symbol? text (Text.escape escapes text) := by
  refine ⟨fun rest => ?_, ?_, ?_⟩
  · rw [Text.toList_escape]
    exact readBy.cutQuoted_escaped text.toList rest
  · rw [Text.toList_escape]
    exact readBy.unescape_escaped text.toList
  · rw [Text.toList_escape]
    exact readBy.unquote_escaped text.toList

/-- A literal denotes one text. -/
theorem IsLiteralOf.unique {symbol? : Char → Option Char} {text other body : String}
    (first : IsLiteralOf symbol? text body) (second : IsLiteralOf symbol? other body) :
    text = other :=
  String.toList_inj.1 (Option.some.inj (first.denotes.symm.trans second.denotes))

/-- Texts between the same marks are equal where they are equal with the marks. -/
theorem eq_of_enclosed {mark a b : String} (same : mark ++ a ++ mark = mark ++ b ++ mark) :
    a = b := by
  have chars := congrArg String.toList same
  simp only [String.toList_append] at chars
  exact String.toList_inj.1 (List.append_cancel_left (List.append_cancel_right chars))

/-! ## Tags -/

/-- What a letter behind a backslash stands for in the literal of a tag. -/
def tagSymbol? : Char → Option Char
  | '\\' => some '\\'
  | '"' => some '"'
  | 'n' => some '\n'
  | _ => none

/-- The escapes of a tag are read by Go, and back by the reader of tags. -/
theorem tagEscapes_areReadBy : AreReadBy tagEscapes tagSymbol? :=
  ⟨by decide, by decide, by decide, by decide⟩

/-- The literals of a tag. -/
inductive IsTagLiteral (tag : String) : String → Prop where
  /-- A raw literal, which ends at the first quote of raw literals. -/
  | raw (noQuote : rawQuote ∉ tag.toList) :
      IsTagLiteral tag (String.singleton rawQuote ++ tag ++ String.singleton rawQuote)
  /-- An interpreted literal on one line, where the tag holds that quote. -/
  | interpreted {body : String} (quote : rawQuote ∈ tag.toList) (oneLine : '\n' ∉ body.toList)
      (literal : IsLiteralOf tagSymbol? tag body) : IsTagLiteral tag ("\"" ++ body ++ "\"")

/-- A raw literal is no interpreted one. -/
theorem raw_ne_interpreted (tag body : String) :
    String.singleton rawQuote ++ tag ++ String.singleton rawQuote ≠ "\"" ++ body ++ "\"" := by
  intro same
  have heads := congrArg (fun literal : String => literal.toList.head?) same
  simp [rawQuote] at heads

/-- A literal is one of one tag. -/
theorem IsTagLiteral.unique {tag other literal : String} (first : IsTagLiteral tag literal)
    (second : IsTagLiteral other literal) : tag = other := by
  cases first with
  | raw _ =>
    generalize same : String.singleton rawQuote ++ tag ++ String.singleton rawQuote = literal
      at second
    cases second with
    | raw _ => exact eq_of_enclosed same
    | interpreted _ _ _ => exact absurd same (raw_ne_interpreted tag _)
  | @interpreted body _ _ denotes =>
    generalize same : "\"" ++ body ++ "\"" = literal at second
    cases second with
    | raw _ => exact absurd same.symm (raw_ne_interpreted other body)
    | interpreted _ _ otherDenotes =>
      obtain rfl := eq_of_enclosed same
      exact denotes.unique otherDenotes

/-- A wrapped tag is one of its literals. -/
theorem isTagLiteral_wrapTag (tag : String) : IsTagLiteral tag (wrapTag tag) := by
  by_cases quote : rawQuote ∈ tag.toList
  · have oneLine : '\n' ∉ (Text.escape tagEscapes tag).toList := by
      rw [Text.toList_escape]
      exact tagEscapes_areReadBy.not_mem_escaped (by decide) (by decide) (by decide) tag.toList
    rw [wrapTag, if_pos (List.contains_iff_mem.2 quote)]
    exact .interpreted quote oneLine (isLiteralOf_escape tagEscapes_areReadBy tag)
  · rw [wrapTag, if_neg (mt List.contains_iff_mem.1 quote)]
    exact .raw quote

/-- Every tag is wrapped as a literal that denotes it, a raw one unless it holds the quote of those;
so different tags are wrapped differently. -/
theorem wrapTag_denotes :
    (∀ tag, IsTagLiteral tag (wrapTag tag)) ∧ Function.Injective wrapTag := by
  refine ⟨isTagLiteral_wrapTag, fun tag other same => ?_⟩
  have otherwise := isTagLiteral_wrapTag other
  rw [← same] at otherwise
  exact (isTagLiteral_wrapTag tag).unique otherwise

/-- What looks like an escape in a tag is told apart from one. -/
example : wrapTag "\x60\\n\n" = "\"\x60\\\\n\\n\"" := by
  decide +kernel

/-! ## Enumerated values -/

/-- What a letter behind a backslash stands for in the literal of a value. -/
def literalSymbol? : Char → Option Char
  | '\\' => some '\\'
  | '"' => some '"'
  | 'n' => some '\n'
  | 'r' => some '\r'
  | 't' => some '\t'
  | _ => none

/-- The escapes of a value are read by Go, and back by the reader of values. -/
theorem literalEscapes_areReadBy : AreReadBy literalEscapes literalSymbol? :=
  ⟨by decide, by decide, by decide, by decide⟩

/-- The values of a type that is neither one of numbers nor the one of truth values have literals on
one line and without tabs that denote them; and different values have different literals. -/
theorem enumLiteral_denotes {datatype : String} (noNumber : datatype ∉ GoWords.numberTypes)
    (noTruth : datatype ≠ "bool") :
    (∀ value : String, ∃ body : String, enumLiteral value datatype = "\"" ++ body ++ "\"" ∧
      ('\n' ∉ body.toList ∧ '\r' ∉ body.toList ∧ '\t' ∉ body.toList) ∧
      IsLiteralOf literalSymbol? value body) ∧
    Function.Injective fun value => enumLiteral value datatype := by
  have quoted : GoWords.isUnquotedType datatype = false := by
    rw [GoWords.isUnquotedType, Bool.or_eq_false_iff]
    exact ⟨Bool.eq_false_iff.2 (mt List.contains_iff_mem.1 noNumber), beq_false_of_ne noTruth⟩
  have given (value : String) : enumLiteral value datatype = "\"" ++ escapeText value ++ "\"" := by
    rw [enumLiteral, quoted, if_neg Bool.false_ne_true]
  have literal (value : String) : IsLiteralOf literalSymbol? value (escapeText value) :=
    isLiteralOf_escape literalEscapes_areReadBy value
  constructor
  · intro value
    refine ⟨escapeText value, given value, ?_, literal value⟩
    rw [escapeText, Text.toList_escape]
    have absent {c : Char} (symbol : c ∈ literalEscapes.map Prod.fst) (noBackslash : c ≠ '\\')
        (noLetter : c ∉ literalEscapes.map Prod.snd) :=
      literalEscapes_areReadBy.not_mem_escaped symbol noBackslash noLetter value.toList
    exact ⟨absent (by decide) (by decide) (by decide), absent (by decide) (by decide) (by decide),
      absent (by decide) (by decide) (by decide)⟩
  · intro value other same
    have enclosed : "\"" ++ escapeText value ++ "\"" = "\"" ++ escapeText other ++ "\"" := by
      rw [← given, ← given]
      exact same
    have bodies : escapeText value = escapeText other := eq_of_enclosed enclosed
    have otherLiteral := literal other
    rw [← bodies] at otherLiteral
    exact (literal value).unique otherLiteral

/-- Of the type `string`, a tab and a backslash before the letter of a tab have different literals.
-/
theorem tab_literals_apart :
    "string" ∉ GoWords.numberTypes ∧ "string" ≠ "bool" ∧
      (∃ body : String, enumLiteral "a\tb\\" "string" = "\"" ++ body ++ "\"" ∧
        IsLiteralOf literalSymbol? "a\tb\\" body) ∧
      enumLiteral "a\tb\\" "string" ≠ enumLiteral "a\\tb\\" "string" := by
  have noNumber : "string" ∉ GoWords.numberTypes := by decide
  have noTruth : "string" ≠ "bool" := by decide
  obtain ⟨denotes, injective⟩ := enumLiteral_denotes noNumber noTruth
  obtain ⟨body, enclosed, -, literal⟩ := denotes "a\tb\\"
  exact ⟨noNumber, noTruth, ⟨body, enclosed, literal⟩, injective.ne (by decide)⟩

end GoBindings
