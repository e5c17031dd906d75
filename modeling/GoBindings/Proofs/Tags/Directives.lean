import GoBindings.Proofs.Tags.Values

/-!
# Directives of struct tags

A tag is read back pair by pair: each directive is one pair exactly where its quoted value reads
back as what it is to say, and a reader that goes wrong at one of them never gets the list right.
The names on the wire are written as they are and the patterns with their backslashes doubled. So a
tag carries the data of its field exactly for the names that are plain and the patterns without
quotation marks and line feeds.
-/

namespace GoBindings.StructTag

/-! ## What a tag is to say -/

/-- A pattern without the slash that it may begin with and the slash that it may end with. -/
def undelimited (pattern : String) : String :=
  String.ofList (dropLeadingSlash (dropLeadingSlash pattern.toList).reverse).reverse

/-- The keys and values of the tag of a field, a custom fragment aside. -/
def directives (field : Field) (withXml withValidate : Bool) : List (String × String) :=
  let json := field.baseName ++ if field.required then "" else ",omitempty"
  let xml := field.baseName ++ if field.isXmlAttribute then ",attr" else ""
  ("json", json) :: (if withXml then [("xml", xml)] else []) ++
    if withValidate then
      field.pattern.toList.map fun pattern => ("validate", "regexp=" ++ undelimited pattern)
    else []

/-! ## Reading one directive after the other -/

/-- A directive as it is written, with what decides whether it reads back as what it is to say. -/
structure Directive where
  /-- The key. -/
  key : String
  /-- What stands between the quotation marks. -/
  written : List Char
  /-- What the value is to be. -/
  value : List UInt8
  /-- Whether the value reads back. -/
  faithful : Prop
  /-- There is a key. -/
  key_ne_empty : key ≠ ""
  /-- The key has the characters of keys only. -/
  key_chars : key.toList.all isKeyChar
  /-- The value reads back exactly so, and whole. -/
  reads : ∀ rest after, readQuoted (written ++ '"' :: rest) = some (value, after) ↔
    faithful ∧ after = rest

/-- Where no blank stands first, the first pair does. -/
theorem readPairs_eq_some_cons_iff {s : List Char} (begun : s.head?.any (· != ' '))
    {pair : String × List UInt8} {pairs : List (String × List UInt8)} :
    readPairs s = some (pair :: pairs) ↔
      ∃ after, readPair s = some (pair, after) ∧ readPairs after = some pairs := by
  cases s with
  | nil => cases begun
  | cons c rest =>
    have blank : c ≠ ' ' := by simpa using begun
    rw [readPairs, if_neg blank]
    split
    · rename_i unread
      simp [unread]
    · rename_i first later read
      simp only [read, Option.map_eq_some_iff, List.cons.injEq, Option.some.injEq, Prod.mk.injEq]
      constructor
      · rintro ⟨others, known, rfl, rfl⟩
        exact ⟨later, ⟨rfl, rfl⟩, known⟩
      · rintro ⟨after, ⟨rfl, rfl⟩, known⟩
        exact ⟨pairs, known, rfl, rfl⟩

namespace Directive

/-- The text of a directive, with a blank before it. -/
def text (d : Directive) : List Char :=
  ' ' :: (d.key.toList ++ ':' :: '"' :: (d.written ++ ['"']))

/-- What a reader is to find. -/
def pair (d : Directive) : String × List UInt8 := (d.key, d.value)

/-- The text of a directive is read as its pair exactly where it is faithful and something that is
no value does not follow. -/
theorem readPair_eq_some_iff (d : Directive) {rest after : List Char}
    (separated : rest.head?.all (· == ' ')) :
    readPair (d.key.toList ++ ':' :: '"' :: (d.written ++ '"' :: rest)) = some (d.pair, after) ↔
      d.faithful ∧ after = rest := by
  have dropped : (d.key.toList ++ ':' :: '"' :: (d.written ++ '"' :: rest)).dropWhile isKeyChar =
      ':' :: '"' :: (d.written ++ '"' :: rest) := by
    rw [List.dropWhile_append_of_pos (List.all_eq_true.1 d.key_chars)]
    rfl
  have taken : (d.key.toList ++ ':' :: '"' :: (d.written ++ '"' :: rest)).takeWhile isKeyChar =
      d.key.toList := by
    rw [List.takeWhile_append_of_pos (List.all_eq_true.1 d.key_chars)]
    exact List.append_nil _
  have named : d.key.isEmpty = false := by
    rw [← Bool.not_eq_true, String.isEmpty_iff]
    exact d.key_ne_empty
  rw [readPair, dropped]
  simp only [taken, String.ofList_toList, named, Bool.false_or, Option.bind_eq_bind,
    Option.bind_eq_some_iff, Prod.exists]
  constructor
  · rintro ⟨value, behind, quoted, last⟩
    split at last
    · cases last
    · cases last
      exact (d.reads rest _).1 quoted
  · rintro ⟨faithful, rfl⟩
    exact ⟨d.value, after, (d.reads after after).2 ⟨faithful, rfl⟩, by rw [separated]; rfl⟩

/-- A directive begins with a character of its key. -/
theorem head?_any (d : Directive) (s : List Char) :
    (d.key.toList ++ s).head?.any (· != ' ') := by
  cases chars : d.key.toList with
  | nil => exact absurd (String.toList_eq_nil_iff.1 chars) d.key_ne_empty
  | cons c rest =>
    have member : c ∈ d.key.toList := by
      rw [chars]
      exact List.mem_cons_self
    have above : isKeyChar c := List.all_eq_true.1 d.key_chars c member
    show (c != ' ') = true
    rw [bne_iff_ne]
    rintro rfl
    cases above

/-- Directives are separated by blanks. -/
theorem head?_texts (ds : List Directive) : (ds.flatMap text).head?.all (· == ' ') := by
  cases ds with
  | nil => rfl
  | cons d rest => rfl

/-- A sequence of directives is read as their pairs exactly where all of them are faithful. -/
theorem readPairs_texts (ds : List Directive) :
    readPairs (ds.flatMap text) = some (ds.map pair) ↔ ∀ d ∈ ds, d.faithful := by
  induction ds with
  | nil => simp [readPairs]
  | cons d rest ih =>
    have skipped : readPairs ((d :: rest).flatMap text) =
        readPairs (d.key.toList ++ ':' :: '"' :: (d.written ++ '"' :: rest.flatMap text)) := by
      rw [List.flatMap_cons, text, List.cons_append, readPairs, if_pos rfl]
      simp
    rw [skipped, List.map_cons, readPairs_eq_some_cons_iff (d.head?_any _), List.forall_mem_cons]
    simp only [d.readPair_eq_some_iff (head?_texts rest)]
    constructor
    · rintro ⟨after, ⟨faithful, rfl⟩, known⟩
      exact ⟨faithful, ih.1 known⟩
    · rintro ⟨faithful, others⟩
      exact ⟨_, ⟨faithful, rfl⟩, ih.2 others⟩

/-- A directive whose value is written as it is. -/
def plain (key value : String) (key_ne_empty : key ≠ "")
    (key_chars : key.toList.all isKeyChar) : Directive where
  key := key
  written := value.toList
  value := bytes value.toList
  faithful := IsPlain value.toList
  key_ne_empty := key_ne_empty
  key_chars := key_chars
  reads _ _ := readQuoted_written_iff

end Directive

/-! ## Patterns -/

/-- Dropping a slash keeps everything else. -/
theorem mem_dropLeadingSlash {c : Char} (other : c ≠ '/') {s : List Char} :
    c ∈ dropLeadingSlash s ↔ c ∈ s := by
  rw [dropLeadingSlash.eq_def]
  split
  · rw [List.mem_cons, or_iff_right other]
  · exact Iff.rfl

/-- Dropping a slash before a line end keeps everything else. -/
theorem mem_dropTrailingSlash {c : Char} (other : c ≠ '/') {s : List Char} :
    c ∈ dropTrailingSlash s ↔ c ∈ s := by
  rw [dropTrailingSlash.eq_def]
  split
  · rw [List.mem_cons, or_iff_right other]
  · rw [List.mem_cons, List.mem_cons, List.mem_cons, or_iff_right other]
  · exact Iff.rfl

/-- Without line ends a text ends with a slash where its reverse begins with one. -/
theorem dropTrailingSlash_eq_dropLeadingSlash {s : List Char} (noLineFeed : '\n' ∉ s) :
    dropTrailingSlash s = dropLeadingSlash s := by
  rw [dropTrailingSlash.eq_def, dropLeadingSlash.eq_def]
  split
  · rfl
  · exact absurd List.mem_cons_self noLineFeed
  · rename_i noSlash _
    split
    · exact absurd rfl (noSlash _)
    · rfl

/-- A text with its backslashes doubled begins as the text does, with another character than a
backslash. -/
theorem exists_of_doubled_eq_cons {s : List Char} {c : Char} (other : c ≠ '\\') {later : List Char}
    (begun : s.flatMap doubleBackslash = c :: later) :
    ∃ rest, s = c :: rest ∧ later = rest.flatMap doubleBackslash := by
  cases s with
  | nil => cases begun
  | cons d rest =>
    rw [List.flatMap_cons, doubleBackslash] at begun
    split at begun
    · cases begun
      exact absurd rfl other
    · cases begun
      exact ⟨rest, rfl, rfl⟩

/-- Doubling the backslashes keeps a slash at the begin. -/
theorem dropLeadingSlash_doubled (s : List Char) :
    dropLeadingSlash (s.flatMap doubleBackslash) =
      (dropLeadingSlash s).flatMap doubleBackslash := by
  rw [dropLeadingSlash.eq_def s]
  split
  · rfl
  · rename_i noSlash
    rw [dropLeadingSlash]
    intro later begun
    obtain ⟨rest, same, -⟩ := exists_of_doubled_eq_cons (by decide) begun
    exact noSlash rest same

/-- Doubling the backslashes keeps a slash at the end. -/
theorem dropTrailingSlash_doubled (s : List Char) :
    dropTrailingSlash (s.flatMap doubleBackslash) =
      (dropTrailingSlash s).flatMap doubleBackslash := by
  rw [dropTrailingSlash.eq_def s]
  split
  · rfl
  · rfl
  · rename_i noSlash noBreak
    rw [dropTrailingSlash]
    · intro later begun
      obtain ⟨rest, same, -⟩ := exists_of_doubled_eq_cons (by decide) begun
      exact noSlash rest same
    · intro later begun
      obtain ⟨rest, rfl, next⟩ := exists_of_doubled_eq_cons (by decide) begun
      obtain ⟨tail, rfl, -⟩ := exists_of_doubled_eq_cons (by decide) next.symm
      exact noBreak tail rfl

/-- A doubled backslash is the same from both ends. -/
theorem reverse_doubled (s : List Char) :
    (s.flatMap doubleBackslash).reverse = s.reverse.flatMap doubleBackslash := by
  rw [List.reverse_flatMap]
  congr 1
  funext c
  rw [Function.comp_apply, doubleBackslash]
  split
  · rfl
  · rfl

/-- The part of a pattern that is written in a tag. -/
def enclosed (pattern : String) : List Char :=
  (dropTrailingSlash (dropLeadingSlash pattern.toList).reverse).reverse

/-- A pattern is written with its backslashes doubled, whichever is done first. -/
theorem toList_escapePattern (pattern : String) :
    (escapePattern pattern).toList = (enclosed pattern).flatMap doubleBackslash := by
  rw [escapePattern, String.toList_ofList, dropLeadingSlash_doubled, reverse_doubled,
    dropTrailingSlash_doubled, reverse_doubled]
  rfl

/-- The delimiting slashes aside, all of a pattern is written. -/
theorem mem_enclosed {c : Char} (other : c ≠ '/') {pattern : String} :
    c ∈ enclosed pattern ↔ c ∈ pattern.toList := by
  rw [enclosed, List.mem_reverse, mem_dropTrailingSlash other, List.mem_reverse,
    mem_dropLeadingSlash other]

/-- Without line ends the pattern is written without its delimiting slashes. -/
theorem enclosed_eq_undelimited {pattern : String} (noLineFeed : '\n' ∉ pattern.toList) :
    enclosed pattern = (undelimited pattern).toList := by
  rw [enclosed, undelimited, String.toList_ofList, dropTrailingSlash_eq_dropLeadingSlash]
  rwa [List.mem_reverse, mem_dropLeadingSlash (by decide)]

/-- A pattern keeps its quotation marks without its delimiting slashes. -/
theorem mark_mem_undelimited {pattern : String} :
    '"' ∈ (undelimited pattern).toList ↔ '"' ∈ pattern.toList := by
  rw [undelimited, String.toList_ofList, List.mem_reverse, mem_dropLeadingSlash (by decide),
    List.mem_reverse, mem_dropLeadingSlash (by decide)]

/-- The rule for a pattern reads back as the pattern without its delimiting slashes exactly where
the pattern has no quotation mark and no line feed. -/
theorem readQuoted_rule_iff {pattern : String} {rest after : List Char} :
    readQuoted (("regexp=" ++ escapePattern pattern).toList ++ '"' :: rest) =
        some (bytes ("regexp=" ++ undelimited pattern).toList, after) ↔
      ('"' ∉ pattern.toList ∧ '\n' ∉ pattern.toList) ∧ after = rest := by
  have written : ("regexp=" ++ escapePattern pattern).toList =
      ("regexp=".toList ++ enclosed pattern).flatMap doubleBackslash := by
    rw [String.toList_append, toList_escapePattern, List.flatMap_append]
    rfl
  have marked : '"' ∈ "regexp=".toList ++ enclosed pattern →
      '"' ∈ ("regexp=" ++ undelimited pattern).toList := by
    rw [String.toList_append, List.mem_append, List.mem_append, mark_mem_undelimited,
      mem_enclosed (by decide)]
    exact id
  have inside {c : Char} (other : c ∉ "regexp=".toList) (noSlash : c ≠ '/') :
      c ∈ "regexp=".toList ++ enclosed pattern ↔ c ∈ pattern.toList := by
    rw [List.mem_append, mem_enclosed noSlash, or_iff_right other]
  rw [written, readQuoted_doubled_iff marked, inside (by decide) (by decide),
    inside (by decide) (by decide)]
  refine and_congr_right fun clean => and_iff_right ?_
  rw [String.toList_append, enclosed_eq_undelimited clean.2]

/-- The directive that makes a validator match a pattern. -/
def Directive.rule (pattern : String) : Directive where
  key := "validate"
  written := ("regexp=" ++ escapePattern pattern).toList
  value := bytes ("regexp=" ++ undelimited pattern).toList
  faithful := '"' ∉ pattern.toList ∧ '\n' ∉ pattern.toList
  key_ne_empty := by decide
  key_chars := by decide
  reads _ _ := readQuoted_rule_iff

/-! ## Tags of fields -/

/-- The directives of a field as they are written. -/
def writtenDirectives (field : Field) (withXml withValidate : Bool) : List Directive :=
  let json := field.baseName ++ if field.required then "" else ",omitempty"
  let xml := field.baseName ++ if field.isXmlAttribute then ",attr" else ""
  .plain "json" json (by decide) (by decide) ::
    (if withXml then [.plain "xml" xml (by decide) (by decide)] else []) ++
    if withValidate then field.pattern.toList.map .rule else []

/-- The directives are written for what the tag is to say. -/
theorem map_pair_writtenDirectives (field : Field) (withXml withValidate : Bool) :
    (writtenDirectives field withXml withValidate).map Directive.pair =
      (directives field withXml withValidate).map fun d => (d.1, bytes d.2.toList) := by
  cases withXml <;> cases withValidate <;> cases pattern : field.pattern <;>
    simp [writtenDirectives, directives, pattern, Directive.pair, Directive.plain, Directive.rule]

/-- The text of a directive whose value is written as it is. -/
theorem Directive.text_plain (key value : String) (key_ne_empty : key ≠ "")
    (key_chars : key.toList.all isKeyChar) :
    (plain key value key_ne_empty key_chars).text =
      (" " ++ (key ++ ":\"" ++ value ++ "\"")).toList := by
  simp only [String.toList_append, List.append_assoc]
  rfl

/-- The text of the directive for a pattern. -/
theorem Directive.text_rule (pattern : String) :
    (rule pattern).text = (" " ++ patternDirective pattern).toList := by
  have split (escaped : String) : "validate:\"regexp=" ++ escaped ++ "\"" =
      "validate" ++ ":\"" ++ ("regexp=" ++ escaped) ++ "\"" := by
    simp only [← String.append_assoc]
    rfl
  have same : (rule pattern).text =
      (plain "validate" ("regexp=" ++ escapePattern pattern) (by decide) (by decide)).text := by
    rw [text, text, rule, plain]
  rw [same, text_plain]
  unfold patternDirective
  rw [split]

/-- Without a custom fragment nothing follows the directives. -/
theorem fragment_eq_nil {field : Field} (noFragment : field.customTag.all (·.isEmpty)) :
    ((Option.or none field.customTag).filter (!·.isEmpty)).toList = [] := by
  cases fragment : field.customTag with
  | none => rfl
  | some text =>
    rw [fragment] at noFragment
    have empty : text.isEmpty = true := noFragment
    rw [Option.none_or, Option.filter_some, empty]
    rfl

/-- Without a custom fragment a tag is the text of these directives. -/
theorem texts_writtenDirectives {field : Field} (noFragment : field.customTag.all (·.isEmpty))
    (withXml withValidate : Bool) :
    (writtenDirectives field withXml withValidate).flatMap Directive.text =
      ' ' :: (tagContent field withXml withValidate).toList := by
  rw [tagContent, fragment_eq_nil noFragment, String.toList_join, writtenDirectives]
  have first (option : String) : " " ++ ("json" ++ ":\"" ++ (field.baseName ++ option) ++ "\"") =
      " " ++ ("json:\"" ++ field.baseName ++ option ++ "\"") := by
    simp only [← String.append_assoc]
    rfl
  simp only [List.flatMap_cons, List.flatMap_append, Directive.text_plain, first]
  cases withXml <;> cases withValidate <;>
    simp [List.flatMap_map, Directive.text_rule, Directive.text_plain]

/-- A plain text before another is plain where both together are. -/
theorem isPlain_append_iff {s suffix : List Char} (plain : IsPlain suffix) :
    IsPlain (s ++ suffix) ↔ IsPlain s := by
  constructor
  · intro whole
    exact ⟨fun member => whole.noMark (List.mem_append_left _ member),
      fun member => whole.noBackslash (List.mem_append_left _ member),
      fun member => whole.noLineFeed (List.mem_append_left _ member)⟩
  · intro start
    exact ⟨mt List.mem_append.1 (not_or.2 ⟨start.noMark, plain.noMark⟩),
      mt List.mem_append.1 (not_or.2 ⟨start.noBackslash, plain.noBackslash⟩),
      mt List.mem_append.1 (not_or.2 ⟨start.noLineFeed, plain.noLineFeed⟩)⟩

/-- The directives of a field are faithful where its name on the wire is plain and the pattern that
is written, if one is, has no quotation mark and no line feed. -/
theorem forall_faithful_iff (field : Field) (withXml withValidate : Bool) :
    (∀ d ∈ writtenDirectives field withXml withValidate, d.faithful) ↔
      IsPlain field.baseName.toList ∧ (withValidate →
        ∀ pattern ∈ field.pattern, '"' ∉ pattern.toList ∧ '\n' ∉ pattern.toList) := by
  have plain_iff {option : String} (plain : IsPlain option.toList) :
      IsPlain (field.baseName ++ option).toList ↔ IsPlain field.baseName.toList := by
    rw [String.toList_append, isPlain_append_iff plain]
  have json : IsPlain (if field.required then "" else ",omitempty").toList := by
    cases field.required <;> exact ⟨by decide, by decide, by decide⟩
  have xml : IsPlain (if field.isXmlAttribute then ",attr" else "").toList := by
    cases field.isXmlAttribute <;> exact ⟨by decide, by decide, by decide⟩
  rw [writtenDirectives, List.cons_append, List.forall_mem_cons, List.forall_mem_append]
  refine (and_congr_left' (plain_iff json)).trans (and_congr_right fun name => ?_)
  have second : ∀ d ∈ (if withXml then
      [Directive.plain "xml" (field.baseName ++ if field.isXmlAttribute then ",attr" else "")
        (by decide) (by decide)] else []), d.faithful := by
    intro d member
    cases withXml
    · cases member
    · rw [List.mem_singleton.1 member]
      exact (plain_iff xml).2 name
  rw [and_iff_right second]
  cases withValidate
  · simp
  · simp [Directive.rule]

/-- The tag of a field without a custom fragment, whatever the options, is read back as exactly its
directives where its name on the wire is plain and the pattern that is written, if one is, has no
quotation mark and no line feed; with any other name or pattern it is not. -/
theorem readPairs_tagContent_iff {field : Field} (noFragment : field.customTag.all (·.isEmpty))
    (withXml withValidate : Bool) :
    readPairs (tagContent field withXml withValidate).toList =
        some ((directives field withXml withValidate).map fun d => (d.1, bytes d.2.toList)) ↔
      IsPlain field.baseName.toList ∧ (withValidate →
        ∀ pattern ∈ field.pattern, '"' ∉ pattern.toList ∧ '\n' ∉ pattern.toList) := by
  have skipped : readPairs (' ' :: (tagContent field withXml withValidate).toList) =
      readPairs (tagContent field withXml withValidate).toList := by
    rw [readPairs, if_pos rfl]
  rw [← skipped, ← texts_writtenDirectives noFragment, ← map_pair_writtenDirectives,
    Directive.readPairs_texts, forall_faithful_iff]

/-- An optional attribute with a pattern of digits. -/
def digitsField : Field where
  baseName := "code"
  schema := .primitive "string"
  isXmlAttribute := true
  pattern := some "/^\\d+$/"

/-- The tag of an optional attribute with a pattern of digits is read back. -/
theorem digits_read_back :
    digitsField.customTag.all (·.isEmpty) ∧ readPairs (tagContent digitsField true true).toList =
      some [("json", bytes "code,omitempty".toList), ("xml", bytes "code,attr".toList),
        ("validate", bytes "regexp=^\\d+$".toList)] :=
  ⟨rfl, (readPairs_tagContent_iff rfl true true).2
    ⟨⟨by decide, by decide, by decide⟩, fun _ pattern member => by
      cases member
      exact ⟨by decide, by decide⟩⟩⟩

/-- A required field whose name on the wire has a quotation mark in it. -/
def markedField : Field where
  baseName := "a\"b"
  schema := .primitive "string"
  required := true

/-- The tag of a field whose name on the wire has a quotation mark in it is not read as that name.
-/
theorem marked_not_read_back :
    readPairs (tagContent markedField false false).toList ≠
      some [("json", bytes "a\"b".toList)] := by
  intro read
  have text : [Directive.plain "json" "a\"b" (by decide) (by decide)].flatMap Directive.text =
      ' ' :: (tagContent markedField false false).toList := rfl
  have skipped := congrArg readPairs text
  rw [readPairs.eq_def (' ' :: _)] at skipped
  have faithful := (Directive.readPairs_texts _).1 (skipped.trans read) _ List.mem_cons_self
  exact faithful.noMark (by decide)

end GoBindings.StructTag
