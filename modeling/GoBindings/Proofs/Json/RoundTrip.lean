import GoBindings.Proofs.Json.Tokens
import GoBindings.Proofs.Tables

/-!
# Reading written JSON

A value that is written over several lines is read back as itself, a member aside that an object
gives twice: of those the reader keeps the first place and the last value. The proof follows the
value. The reader is given as much fuel as the text has characters, which is enough because every
call takes a character; a blank between tokens is skipped, and what follows a value ends it.
-/

namespace GoBindings.Json

/-! ## What is read back -/

mutual

/-- A value as it is read back: a member that is given twice keeps its first place and its last
value. -/
def merged : Json → Json
  | .array items => .array (mergedItems items)
  | .object members => .object (Table.ofList (mergedMembers members)).entries
  | value => value

/-- Items as they are read back. -/
def mergedItems : List Json → List Json
  | [] => []
  | item :: rest => merged item :: mergedItems rest

/-- Members as they are read back, repeated ones included. -/
def mergedMembers : List (String × Json) → List (String × Json)
  | [] => []
  | (name, value) :: rest => (name, merged value) :: mergedMembers rest

end

/-- Items are read back one by one. -/
theorem mergedItems_eq_map (items : List Json) : mergedItems items = items.map merged := by
  induction items with
  | nil => rfl
  | cons item rest ih => rw [mergedItems, ih, List.map_cons]

/-- Members are read back one by one. -/
theorem mergedMembers_eq_map (members : List (String × Json)) :
    mergedMembers members = members.map fun member => (member.1, merged member.2) := by
  induction members with
  | nil => rfl
  | cons member rest ih => rw [mergedMembers, ih, List.map_cons]

/-- A decimal that is read back from its own text. -/
def ReadsBack (value : Decimal) : Prop :=
  readNumber (value.write decimalStyle).toList = some (.decimal value, [])

/-- A value whose decimals are all read back from their own texts. -/
inductive IsReadable : Json → Prop
  | null : IsReadable .null
  | bool (value : Bool) : IsReadable (.bool value)
  | integer (value : Int) : IsReadable (.integer value)
  | decimal {value : Decimal} (back : ReadsBack value) : IsReadable (.decimal value)
  | string (value : String) : IsReadable (.string value)
  | array {items : List Json} (all : ∀ item ∈ items, IsReadable item) : IsReadable (.array items)
  | object {members : List (String × Json)} (all : ∀ member ∈ members, IsReadable member.2) :
    IsReadable (.object members)

/-! ## Blanks -/

/-- A blank is skipped. -/
theorem skipSpace_append {gap : List Char} (blank : ∀ c ∈ gap, isSpace c) {c : Char}
    (solid : isSpace c = false) (rest : List Char) : skipSpace (gap ++ c :: rest) = c :: rest := by
  rw [skipSpace, List.dropWhile_append_of_pos blank, List.dropWhile_cons_of_neg (by simp [solid])]

/-- A line starts with a line end. -/
theorem toList_lineStart (level : Nat) :
    (lineStart level).toList = '\n' :: List.replicate (2 * level) ' ' := by
  rw [lineStart, String.toList_append]
  exact congrArg ('\n' :: ·) String.toList_ofList

/-- The start of a line is blank. -/
theorem isSpace_lineStart (level : Nat) : ∀ c ∈ (lineStart level).toList, isSpace c := by
  intro c member
  rw [toList_lineStart] at member
  rcases List.mem_cons.1 member with rfl | blank
  · rfl
  · rw [List.eq_of_mem_replicate blank]
    rfl

/-- The end of a text ends a value. -/
theorem endsValue_nil : EndsValue [] := by
  rintro c ⟨⟩

/-- A comma ends a value. -/
theorem endsValue_comma (rest : List Char) : EndsValue (',' :: rest) := by
  rintro c ⟨⟩
  exact .inl rfl

/-- The start of a line ends a value. -/
theorem endsValue_lineStart (level : Nat) (rest : List Char) :
    EndsValue ((lineStart level).toList ++ rest) := by
  rw [toList_lineStart]
  rintro c ⟨⟩
  exact .inr rfl

/-! ## Values without parts -/

/-- A word is read from its own letters. -/
theorem readWord_self (word rest : List Char) : readWord word (word ++ rest) = some rest := by
  rw [readWord, if_pos (by simp), List.drop_left]

/-- What the words, texts, lists and objects begin with. -/
def openers : List Char := ['n', 't', 'f', '"', '[', '{']

/-- Where nothing else begins, a number is read. -/
theorem readValue_eq_readNumber {c : Char} (other : c ∉ openers) (fuel : Nat) (tail : List Char) :
    readValue (fuel + 1) (c :: tail) = readNumber (c :: tail) := by
  have apart {d : Char} (opener : d ∈ openers) (later : List Char) : c :: tail ≠ d :: later := by
    rintro ⟨⟩
    exact other opener
  rw [readValue]
  · exact apart (by decide)
  · exact apart (by decide)
  · exact apart (by decide)
  · exact apart (by decide)
  · exact apart (by decide)
  · exact apart (by decide)

/-- Numbers begin with none of these. -/
theorem not_mem_openers {c : Char} (start : isNumberStart c) : c ∉ openers := by
  have none : openers.all fun d => !isNumberStart d := by decide
  intro member
  have other := List.all_eq_true.1 none c member
  rw [start] at other
  cases other

/-- A number that is read to the end of its text is read as a value before what ends it. -/
theorem readValue_of_readNumber {text rest : List Char} {value : Json}
    (read : readNumber text = some (value, [])) (ends : EndsValue rest) (fuel : Nat) :
    readValue (fuel + 1) (text ++ rest) = some (value, rest) := by
  obtain ⟨c, tail, rfl, start⟩ := exists_of_readNumber read
  rw [List.cons_append, readValue_eq_readNumber (not_mem_openers start), ← List.cons_append,
    readNumber_append ends, read]
  rfl

/-- The characters of a text in quotes. -/
theorem toList_quote (text : String) :
    (quote text).toList = '"' :: (text.toList.flatMap escapeChar ++ ['"']) := by
  have mark : "\"".toList = ['"'] := rfl
  rw [quote, String.toList_append, String.toList_append, mark, String.toList_ofList,
    List.append_assoc, List.singleton_append]

/-- A text in quotes is longer than what is in it. -/
theorem length_lt_length_quote (text : String) :
    text.toList.length + 1 < (quote text).toList.length := by
  have least (s : List Char) : s.length ≤ (s.flatMap escapeChar).length := by
    induction s with
    | nil => exact Nat.le_refl 0
    | cons c rest ih =>
      have one : 1 ≤ (escapeChar c).length := by
        rw [escapeChar]
        repeat' split
        all_goals exact Nat.succ_le_succ (Nat.zero_le _)
      rw [List.flatMap_cons, List.length_append, List.length_cons]
      omega
  have inside := least text.toList
  rw [toList_quote, List.length_cons, List.length_append, List.length_singleton]
  omega

/-! ## Values with parts -/

/-- A value is read back from its text on so many lines, with any fuel that the text gives. -/
def IsReadBack (level : Nat) (value : Json) : Prop :=
  ∀ ⦃fuel : Nat⦄ ⦃rest : List Char⦄, (value.pretty level).toList.length ≤ fuel → EndsValue rest →
    readValue fuel ((value.pretty level).toList ++ rest) = some (value.merged, rest)

/-- A value that is read back begins with what is neither a blank nor a closing bracket: where these
stand only a number could be read, and none begins so. -/
theorem IsReadBack.exists_eq_cons {level : Nat} {value : Json} (back : IsReadBack level value) :
    ∃ c tail, (value.pretty level).toList = c :: tail ∧ isSpace c = false ∧ c ≠ ']' := by
  have read := back (Nat.le_refl _) endsValue_nil
  rw [List.append_nil] at read
  cases text : (value.pretty level).toList with
  | nil =>
    rw [text] at read
    cases read
  | cons c tail =>
    rw [text, List.length_cons] at read
    have noNumber (start : isNumberStart c = false) (other : c ∉ openers) : False := by
      rw [readValue_eq_readNumber other] at read
      obtain ⟨d, later, begun, numeric⟩ := exists_of_readNumber read
      rw [← (List.cons.inj begun).1, start] at numeric
      cases numeric
    refine ⟨c, tail, rfl, ?_, ?_⟩
    · by_cases space : isSpace c
      · simp only [isSpace, Bool.or_eq_true, beq_iff_eq] at space
        rcases space with ((rfl | rfl) | rfl) | rfl
        · exact (noNumber rfl (by decide)).elim
        · exact (noNumber rfl (by decide)).elim
        · exact (noNumber rfl (by decide)).elim
        · exact (noNumber rfl (by decide)).elim
      · exact Bool.eq_false_iff.2 space
    · rintro rfl
      exact noNumber rfl (by decide)

/-- What stands between two entries of a level. -/
def separator (level : Nat) : List Char := ',' :: (lineStart level).toList

/-- Entries of a level one after the other. -/
def joined (level : Nat) (entries : List (List Char)) : List Char :=
  (separator level).intercalate entries

/-- One entry stands alone. -/
theorem joined_singleton (level : Nat) (entry : List Char) : joined level [entry] = entry :=
  List.intercalate_singleton

/-- An entry stands before a comma and the others. -/
theorem joined_cons_append (level : Nat) (entry next : List Char) (later : List (List Char))
    (rest : List Char) :
    joined level (entry :: next :: later) ++ rest =
      entry ++ ',' :: ((lineStart level).toList ++ (joined level (next :: later) ++ rest)) := by
  rw [joined, List.intercalate_cons_cons, List.append_assoc, List.append_assoc]
  rfl

/-- The first of several entries takes room beside the others. -/
theorem length_joined_lt (level : Nat) (entry next : List Char) (later : List (List Char)) :
    entry.length + (joined level (next :: later)).length <
      (joined level (entry :: next :: later)).length := by
  have whole := joined_cons_append level entry next later []
  rw [List.append_nil, List.append_nil] at whole
  rw [whole, List.length_append, List.length_cons, List.length_append]
  omega

/-- Entries begin as the first of them does. -/
theorem exists_joined_eq_cons (level : Nat) {entry : List Char} {c : Char} {tail : List Char}
    (begun : entry = c :: tail) (later : List (List Char)) :
    ∃ more, joined level (entry :: later) = c :: more := by
  subst begun
  cases later with
  | nil => exact ⟨tail, joined_singleton level _⟩
  | cons next others =>
    have whole := joined_cons_append level (c :: tail) next others []
    rw [List.append_nil] at whole
    exact ⟨_, whole⟩

/-- The blank before entries is skipped where they begin with what is none. -/
theorem skipSpace_joined (level : Nat) {entry : List Char} {c : Char} {tail : List Char}
    (begun : entry = c :: tail) (solid : isSpace c = false) (later : List (List Char))
    (rest : List Char) :
    skipSpace ((lineStart level).toList ++ (joined level (entry :: later) ++ rest)) =
      joined level (entry :: later) ++ rest := by
  obtain ⟨more, whole⟩ := exists_joined_eq_cons level begun later
  rw [whole, List.cons_append]
  exact skipSpace_append (isSpace_lineStart level) solid _

/-- Items are read back up to the closing bracket. -/
theorem readItems_written {level : Nat} {items : List Json} (nonempty : items ≠ [])
    (back : ∀ item ∈ items, IsReadBack level item) (fuel : Nat)
    (enough : (joined level (items.map fun item => (item.pretty level).toList)).length < fuel)
    (outer : Nat) (rest : List Char) :
    readItems fuel (joined level (items.map fun item => (item.pretty level).toList) ++
        ((lineStart outer).toList ++ ']' :: rest)) = some (items.map merged, rest) := by
  induction items generalizing fuel with
  | nil => exact absurd rfl nonempty
  | cons item others ih =>
    obtain ⟨more, rfl⟩ := Nat.exists_eq_succ_of_ne_zero (Nat.ne_of_gt (Nat.zero_lt_of_lt enough))
    have first := back item List.mem_cons_self
    cases others with
    | nil =>
      have closed : skipSpace ((lineStart outer).toList ++ ']' :: rest) = ']' :: rest :=
        skipSpace_append (isSpace_lineStart outer) rfl rest
      rw [List.map_singleton, joined_singleton] at enough ⊢
      rw [readItems, first (Nat.le_of_lt_succ enough) (endsValue_lineStart outer _)]
      simp only [Option.bind_eq_bind, Option.bind_some, closed]
      rfl
    | cons next later =>
      rw [List.map_cons, List.map_cons] at enough ⊢
      have room := length_joined_lt level (item.pretty level).toList (next.pretty level).toList
        (later.map fun item => (item.pretty level).toList)
      obtain ⟨c, tail, begun, solid, -⟩ :=
        (back next (List.mem_cons_of_mem item List.mem_cons_self)).exists_eq_cons
      have others := ih (List.cons_ne_nil _ _)
        (fun item member => back item (List.mem_cons_of_mem _ member)) more
        (by rw [List.map_cons]; omega)
      have comma (s : List Char) : skipSpace (',' :: s) = ',' :: s := rfl
      rw [List.map_cons] at others
      rw [joined_cons_append, readItems, first (by omega) (endsValue_comma _)]
      simp only [Option.bind_eq_bind, Option.bind_some, comma, skipSpace_joined level begun solid,
        others]
      rfl

/-- The text of a member of a level. -/
def memberText (level : Nat) (member : String × Json) : List Char :=
  (quote member.1 ++ ": " ++ member.2.pretty level).toList

/-- The text of a member is its name in quotes, a colon and its value. -/
theorem memberText_append (level : Nat) (member : String × Json) (rest : List Char) :
    memberText level member ++ rest = '"' :: (member.1.toList.flatMap escapeChar ++
      '"' :: ':' :: ' ' :: ((member.2.pretty level).toList ++ rest)) := by
  rw [memberText, String.toList_append, String.toList_append, toList_quote]
  simp

/-- The text of a member is as long as its name in quotes and its value, with a colon and a blank
between them. -/
theorem length_memberText (level : Nat) (member : String × Json) :
    (memberText level member).length =
      (quote member.1).toList.length + 2 + (member.2.pretty level).toList.length := by
  rw [memberText, String.toList_append, String.toList_append, List.length_append,
    List.length_append]
  rfl

/-- The value of a member is read back behind its blank. -/
theorem IsReadBack.behind_blank {level : Nat} {value : Json} (back : IsReadBack level value)
    {fuel : Nat} {rest : List Char} (enough : (value.pretty level).toList.length ≤ fuel)
    (ends : EndsValue rest) :
    readValue fuel (skipSpace (' ' :: ((value.pretty level).toList ++ rest))) =
      some (value.merged, rest) := by
  obtain ⟨c, tail, begun, solid, -⟩ := back.exists_eq_cons
  have blank : ∀ c ∈ [' '], isSpace c := List.forall_mem_singleton.2 rfl
  have skipped : skipSpace (' ' :: ((value.pretty level).toList ++ rest)) =
      (value.pretty level).toList ++ rest := by
    rw [begun]
    exact skipSpace_append blank solid (tail ++ rest)
  rw [skipped, back enough ends]

/-- Members are read back up to the closing brace. -/
theorem readMembers_written {level : Nat} {members : List (String × Json)}
    (nonempty : members ≠ []) (back : ∀ member ∈ members, IsReadBack level member.2) (fuel : Nat)
    (enough : (joined level (members.map (memberText level))).length < fuel) (outer : Nat)
    (rest : List Char) :
    readMembers fuel (joined level (members.map (memberText level)) ++
        ((lineStart outer).toList ++ '}' :: rest)) =
      some (members.map fun member => (member.1, member.2.merged), rest) := by
  have colon (s : List Char) : skipSpace (':' :: s) = ':' :: s := rfl
  have comma (s : List Char) : skipSpace (',' :: s) = ',' :: s := rfl
  induction members generalizing fuel with
  | nil => exact absurd rfl nonempty
  | cons member others ih =>
    obtain ⟨more, rfl⟩ := Nat.exists_eq_succ_of_ne_zero (Nat.ne_of_gt (Nat.zero_lt_of_lt enough))
    have value := back member List.mem_cons_self
    have name := length_lt_length_quote member.1
    have long := length_memberText level member
    cases others with
    | nil =>
      have closed : skipSpace ((lineStart outer).toList ++ '}' :: rest) = '}' :: rest :=
        skipSpace_append (isSpace_lineStart outer) rfl rest
      rw [List.map_singleton, joined_singleton] at enough ⊢
      rw [memberText_append, readMembers, readText_written (by omega)]
      simp only [Option.bind_eq_bind, Option.bind_some, colon,
        value.behind_blank (show _ ≤ more by omega) (endsValue_lineStart outer _), closed,
        String.ofList_toList]
      rfl
    | cons next later =>
      rw [List.map_cons, List.map_cons] at enough ⊢
      have room := length_joined_lt level (memberText level member) (memberText level next)
        (later.map (memberText level))
      have others := ih (List.cons_ne_nil _ _)
        (fun member there => back member (List.mem_cons_of_mem _ there)) more
        (by rw [List.map_cons]; omega)
      have begun := memberText_append level next []
      rw [List.append_nil] at begun
      rw [List.map_cons] at others
      rw [joined_cons_append, memberText_append, readMembers, readText_written (by omega)]
      simp only [Option.bind_eq_bind, Option.bind_some, colon,
        value.behind_blank (show _ ≤ more by omega) (endsValue_comma _), comma,
        skipSpace_joined level begun rfl, others, String.ofList_toList]
      rfl

/-! ## Files -/

/-- The items of a level are written one by one. -/
theorem prettyItems_eq_map (level : Nat) (items : List Json) :
    prettyItems level items = items.map (pretty level) := by
  induction items with
  | nil => rfl
  | cons item rest ih => rw [prettyItems, ih, List.map_cons]

/-- The members of a level are written one by one. -/
theorem prettyMembers_eq_map (level : Nat) (members : List (String × Json)) :
    prettyMembers level members =
      members.map fun member => quote member.1 ++ ": " ++ member.2.pretty level := by
  induction members with
  | nil => rfl
  | cons member rest ih => rw [prettyMembers, ih, List.map_cons]

/-- Entries between brackets, as characters. -/
theorem toList_spread (level : Nat) (opening closing : String) (entries : List String) :
    (spread level opening closing entries).toList =
      opening.toList ++ ((lineStart (level + 1)).toList ++
        (joined (level + 1) (entries.map String.toList) ++
          ((lineStart level).toList ++ closing.toList))) := by
  have comma : ("," ++ lineStart (level + 1)).toList = separator (level + 1) := by
    rw [String.toList_append]
    rfl
  simp only [spread, String.toList_append, String.toList_intercalate, comma, joined,
    List.append_assoc]

/-- A text that is not empty gives fuel for what is behind its first character. -/
theorem exists_eq_succ_of_length_le {text : List Char} {fuel : Nat} (enough : text.length ≤ fuel)
    {c : Char} {tail : List Char} (begun : text = c :: tail) :
    ∃ more, fuel = more + 1 ∧ tail.length ≤ more := by
  rw [begun, List.length_cons] at enough
  exact ⟨fuel - 1, by omega, by omega⟩

/-- A number that is read to the end of its text is read back. -/
theorem isReadBack_of_readNumber {level : Nat} {value : Json}
    (read : readNumber (value.pretty level).toList = some (value, []))
    (same : value.merged = value) : IsReadBack level value := by
  intro fuel rest enough ends
  obtain ⟨c, tail, begun, -⟩ := exists_of_readNumber read
  obtain ⟨more, rfl, -⟩ := exists_eq_succ_of_length_le enough begun
  rw [readValue_of_readNumber read ends, same]

/-- A value that is written as a word is read back from it. -/
theorem isReadBack_word {level : Nat} {value : Json} (word : String)
    (written : value.pretty level = word) (nonempty : word.toList ≠ [])
    (reads : ∀ fuel rest, readValue (fuel + 1) (word.toList ++ rest) =
      (readWord word.toList (word.toList ++ rest)).map (value, ·))
    (same : value.merged = value) : IsReadBack level value := by
  intro fuel rest enough ends
  obtain ⟨c, tail, begun⟩ := List.exists_cons_of_ne_nil nonempty
  rw [← written] at begun
  obtain ⟨more, rfl, -⟩ := exists_eq_succ_of_length_le enough begun
  rw [written, reads, readWord_self, Option.map_some, same]

/-- A text is read back. -/
theorem isReadBack_string (level : Nat) (value : String) : IsReadBack level (.string value) := by
  intro fuel rest enough ends
  have text : (pretty level (.string value)).toList =
      '"' :: (value.toList.flatMap escapeChar ++ ['"']) := toList_quote value
  have room := length_lt_length_quote value
  obtain ⟨more, rfl, long⟩ := exists_eq_succ_of_length_le enough text
  rw [toList_quote, List.length_cons] at room
  rw [text, List.cons_append, List.append_assoc, readValue, List.singleton_append,
    readText_written (by omega), Option.map_some]
  exact congrArg (fun text => some (Json.string text, rest)) String.ofList_toList

/-- Behind a bracket that is not closed at once items are read. -/
theorem readValue_bracket {s inner : List Char} (opened : skipSpace s = inner) {c : Char}
    {tail : List Char} (begun : inner = c :: tail) (other : c ≠ ']') (fuel : Nat) :
    readValue (fuel + 1) ('[' :: s) =
      (readItems fuel inner).map fun read => (.array read.1, read.2) := by
  rw [readValue, opened, begun]
  split
  · rename_i closed
    exact absurd (List.cons.inj closed).1 other
  · rfl

/-- Behind a brace that is not closed at once members are read. -/
theorem readValue_brace {s inner : List Char} (opened : skipSpace s = inner) {c : Char}
    {tail : List Char} (begun : inner = c :: tail) (other : c ≠ '}') (fuel : Nat) :
    readValue (fuel + 1) ('{' :: s) =
      (readMembers fuel inner).map fun read =>
        (.object (Table.ofList read.1).entries, read.2) := by
  rw [readValue, opened, begun]
  split
  · rename_i closed
    exact absurd (List.cons.inj closed).1 other
  · rfl

/-- A list is read back where its items are. -/
theorem isReadBack_array {level : Nat} {items : List Json}
    (back : ∀ item ∈ items, IsReadBack (level + 1) item) : IsReadBack level (.array items) := by
  intro fuel rest enough ends
  cases items with
  | nil =>
    have text : (pretty level (.array [])).toList = ['[', ']'] := by
      change "[]".toList = _
      rfl
    obtain ⟨more, rfl, -⟩ := exists_eq_succ_of_length_le enough text
    rw [text]
    rfl
  | cons item others =>
    have text : (pretty level (.array (item :: others))).toList = '[' ::
        ((lineStart (level + 1)).toList ++ (joined (level + 1)
          ((item :: others).map fun item => (item.pretty (level + 1)).toList) ++
            ((lineStart level).toList ++ [']']))) := by
      rw [pretty, toList_spread, prettyItems_eq_map, List.map_map]
      rfl
    obtain ⟨more, rfl, room⟩ := exists_eq_succ_of_length_le enough text
    simp only [List.length_append, List.length_singleton] at room
    obtain ⟨c, tail, begun, solid, noBracket⟩ := (back item List.mem_cons_self).exists_eq_cons
    have inner := readItems_written (List.cons_ne_nil item others) back more (by omega) level rest
    have skipped := skipSpace_joined (level + 1) begun solid
      (others.map fun item => (item.pretty (level + 1)).toList)
      ((lineStart level).toList ++ ']' :: rest)
    obtain ⟨first, whole⟩ := exists_joined_eq_cons (level + 1) begun
      (others.map fun item => (item.pretty (level + 1)).toList)
    rw [List.map_cons] at inner
    rw [text, List.map_cons]
    simp only [List.cons_append, List.append_assoc, List.nil_append]
    rw [readValue_bracket skipped (congrArg (· ++ _) whole) noBracket, inner, merged,
      mergedItems_eq_map]
    rfl

/-- An object is read back where the values of its members are. -/
theorem isReadBack_object {level : Nat} {members : List (String × Json)}
    (back : ∀ member ∈ members, IsReadBack (level + 1) member.2) :
    IsReadBack level (.object members) := by
  intro fuel rest enough ends
  cases members with
  | nil =>
    have text : (pretty level (.object [])).toList = ['{', '}'] := by
      change "\x7b\x7d".toList = _
      rfl
    obtain ⟨more, rfl, -⟩ := exists_eq_succ_of_length_le enough text
    rw [text]
    rfl
  | cons member others =>
    have text : (pretty level (.object (member :: others))).toList = '{' ::
        ((lineStart (level + 1)).toList ++ (joined (level + 1)
          ((member :: others).map (memberText (level + 1))) ++
            ((lineStart level).toList ++ ['}']))) := by
      rw [pretty, toList_spread, prettyMembers_eq_map, List.map_map]
      rfl
    obtain ⟨more, rfl, room⟩ := exists_eq_succ_of_length_le enough text
    simp only [List.length_append, List.length_singleton] at room
    have begun := memberText_append (level + 1) member []
    rw [List.append_nil] at begun
    have inner :=
      readMembers_written (List.cons_ne_nil member others) back more (by omega) level rest
    have skipped := skipSpace_joined (level + 1) begun rfl (others.map (memberText (level + 1)))
      ((lineStart level).toList ++ '}' :: rest)
    obtain ⟨first, whole⟩ := exists_joined_eq_cons (level + 1) begun
      (others.map (memberText (level + 1)))
    rw [List.map_cons] at inner
    rw [text, List.map_cons]
    simp only [List.cons_append, List.append_assoc, List.nil_append]
    rw [readValue_brace skipped (congrArg (· ++ _) whole) (by decide), inner, merged,
      mergedMembers_eq_map]
    rfl

/-- Every value whose decimals are read back is, at each level. -/
theorem IsReadable.isReadBack {value : Json} (readable : value.IsReadable) (level : Nat) :
    IsReadBack level value := by
  induction readable generalizing level with
  | null => exact isReadBack_word "null" rfl (by decide) (fun _ _ => rfl) rfl
  | bool value =>
    cases value with
    | true => exact isReadBack_word "true" rfl (by decide) (fun _ _ => rfl) rfl
    | false => exact isReadBack_word "false" rfl (by decide) (fun _ _ => rfl) rfl
  | integer value => exact isReadBack_of_readNumber (readNumber_toString value) rfl
  | decimal back => exact isReadBack_of_readNumber back rfl
  | string value => exact isReadBack_string level value
  | array all ih => exact isReadBack_array fun item member => ih item member (level + 1)
  | object all ih => exact isReadBack_object fun item member => ih item member (level + 1)

/-- A value that is written to a file is read from it with its repeated members merged. -/
theorem parse_pretty {value : Json} (readable : value.IsReadable) :
    parse (value.pretty 0) = some value.merged := by
  have back := readable.isReadBack 0
  obtain ⟨c, tail, begun, solid, -⟩ := back.exists_eq_cons
  have skipped : skipSpace (value.pretty 0).toList = (value.pretty 0).toList := by
    rw [begun, skipSpace, List.dropWhile_cons_of_neg (by simp [solid])]
  have enough : (value.pretty 0).toList.length ≤ (value.pretty 0).length + 1 := by
    rw [String.length_toList]
    exact Nat.le_succ _
  have read := back enough endsValue_nil
  rw [List.append_nil] at read
  rw [parse, skipped, read]
  rfl

/-- What JSON stands for: the members of every object have different names, and every decimal is
read back from its own text. -/
inductive IsValue : Json → Prop
  | null : IsValue .null
  | bool (value : Bool) : IsValue (.bool value)
  | integer (value : Int) : IsValue (.integer value)
  | decimal {value : Decimal} (back : ReadsBack value) : IsValue (.decimal value)
  | string (value : String) : IsValue (.string value)
  | array {items : List Json} (all : ∀ item ∈ items, IsValue item) : IsValue (.array items)
  | object {members : List (String × Json)} (distinct : (members.map Prod.fst).Nodup)
    (all : ∀ member ∈ members, IsValue member.2) : IsValue (.object members)

/-- What JSON stands for can be read back. -/
theorem IsValue.isReadable {value : Json} (isValue : value.IsValue) : value.IsReadable := by
  induction isValue with
  | null => exact .null
  | bool value => exact .bool value
  | integer value => exact .integer value
  | decimal back => exact .decimal back
  | string value => exact .string value
  | array _ ih => exact .array ih
  | object _ _ ih => exact .object ih

/-- Where no member is repeated nothing is merged. -/
theorem IsValue.merged_eq {value : Json} (isValue : value.IsValue) : value.merged = value := by
  induction isValue with
  | null => rfl
  | bool value => rfl
  | integer value => rfl
  | decimal back => rfl
  | string value => rfl
  | array _ ih =>
    rw [merged, mergedItems_eq_map, List.map_congr_left ih, List.map_id']
  | @object members distinct _ ih =>
    have values : members.map (fun member => (member.1, member.2.merged)) = members := by
      rw [List.map_congr_left fun member there => by rw [ih member there], List.map_id']
    rw [merged, mergedMembers_eq_map, values, (Table.entries_ofList_iff members).2 distinct]

end GoBindings.Json
