import GoBindings.Proofs.Naming.StableEnumerations
import GoBindings.Proofs.Naming.StableFields
import GoBindings.Proofs.Trimming

/-!
# Constants of text values

The constant of a text value is the value in snake case and in capitals, sanitized and without
underscores at its ends; a symbol has a word instead, and what is reserved or begins with a digit
gets an underscore. No character of any script has a small letter of ASCII in its capital form, so
whatever the value, what is sanitized is in capitals. A value that is in capitals already is taken
as it is, and there a line end behind the capitals is passed over. The main statement: a constant is
a legal identifier unless its value is such a line.
-/

namespace GoBindings

open ReservedWords (plain)

/-! ## Capital forms -/

namespace Unicode

/-- The small letters of ASCII by their code points. -/
theorem isLower_iff_toNat {c : Char} : c.isLower = true ↔ 0x61 ≤ c.toNat ∧ c.toNat ≤ 0x7A := by
  have tested : c.isLower = (decide (0x61 ≤ c.val) && decide (c.val ≤ 0x7A)) := rfl
  rw [tested, Bool.and_eq_true, decide_eq_true_eq, decide_eq_true_eq, UInt32.le_iff_toNat_le,
    UInt32.le_iff_toNat_le]
  exact Iff.rfl

/-- The character of a code point has that code point, or none where there is no character. -/
theorem toNat_ofNat (code : Nat) :
    (Char.ofNat code).toNat = code ∨ (Char.ofNat code).toNat = 0 := by
  by_cases valid : code.isValidChar
  · have made : Char.ofNat code = Char.ofNatAux code valid := dif_pos valid
    rw [made]
    exact .inl rfl
  · have made : Char.ofNat code = ⟨0, by decide⟩ := dif_neg valid
    rw [made]
    exact .inr rfl

/-- A code point off the small letters of ASCII is that of another character. -/
theorem isLower_ofNat {code : Nat} (off : code < 0x61 ∨ 0x7A < code) :
    (Char.ofNat code).isLower = false := by
  refine Bool.eq_false_iff.2 fun small => ?_
  have range := isLower_iff_toNat.1 small
  rcases toNat_ofNat code with same | none
  · omega
  · omega

/-- No image of a run is a small letter of ASCII where the ends of the run have their images on one
side of these letters. -/
theorem isLower_image {run : CaseRun} {code : Nat} (covered : run.contains code = true)
    (off : run.last + run.shift < 0x61 ∨ 0x7A < run.first + run.shift) :
    (run.image code).isLower = false := by
  simp only [CaseRun.contains, Bool.and_eq_true, decide_eq_true_eq] at covered
  obtain ⟨⟨low, high⟩, -⟩ := covered
  exact isLower_ofNat (by omega)

/-- The tables of capital forms keep off the small letters of ASCII. -/
theorem upperTables_off_small :
    (∀ run ∈ upperRuns, run.last + run.shift < 0x61 ∨ 0x7A < run.first + run.shift) ∧
      ∀ entry ∈ upperExpansions, ∀ code ∈ entry.2, code < 0x61 ∨ 0x7A < code := by
  decide +kernel

/-- No character has a small letter of ASCII in its capital form. -/
theorem isLower_of_mem_upperChar {c d : Char} (member : d ∈ upperChar c) : d.isLower = false := by
  rw [upperChar] at member
  split at member
  · rename_i ascii
    rw [List.mem_singleton.1 member]
    exact Chars.ascii_induction (P := fun c => c.toUpper.isLower = false) (by decide) ascii
  · rename_i beyond
    rw [caseImage] at member
    split at member
    · rename_i codes expanded
      obtain ⟨code, there, rfl⟩ := List.mem_map.1 member
      exact isLower_ofNat (upperTables_off_small.2 _ (mem_of_lookup expanded) code there)
    · split at member
      · rename_i run found
        have covered := List.find?_some found
        rw [List.mem_singleton.1 member]
        exact isLower_image covered (upperTables_off_small.1 run (List.mem_of_find?_eq_some found))
      · rw [List.mem_singleton.1 member, Bool.eq_false_iff, Ne, isLower_iff_toNat]
        omega

end Unicode

namespace Chars

/-- A body character that is no small letter is a capital, a digit or an underscore. -/
theorem capital_of_isBodyChar {c : Char} (body : isBodyChar c = true)
    (notSmall : c.isLower = false) : (c.isUpper || c.isDigit || c == '_') = true := by
  simpa [isBodyChar, Char.isAlphanum, isAlpha_eq, notSmall, or_assoc] using body

/-- Dropping empty brackets adds nothing. -/
theorem dropEmptyBrackets_subset (s : List Char) : dropEmptyBrackets s ⊆ s := by
  intro c member
  fun_induction dropEmptyBrackets s with
  | case1 rest ih => exact List.mem_cons_of_mem _ (List.mem_cons_of_mem _ (ih member))
  | case2 d rest _ ih =>
    rcases List.mem_cons.1 member with rfl | later
    · exact List.mem_cons_self
    · exact List.mem_cons_of_mem d (ih later)
  | case3 => exact member

/-- Any text in capitals is sanitized to capitals, digits and underscores. -/
theorem isCapitals_sanitize_upper (s : List Char) : IsCapitals (sanitize (upper s)) := by
  intro d member
  have body := isBodyChar_of_mem_sanitize member
  refine capital_of_isBodyChar body ?_
  rw [sanitize_eq] at member
  obtain ⟨c, there, given⟩ := List.mem_flatMap.1 member
  rw [bodyChars] at given
  split at given
  · rw [List.mem_singleton.1 given]
    obtain ⟨origin, -, inner⟩ := List.mem_flatMap.1 (dropEmptyBrackets_subset _ there)
    exact Unicode.isLower_of_mem_upperChar inner
  · split at given
    · rw [List.mem_singleton.1 given]
      rfl
    · exact absurd given List.not_mem_nil

end Chars

/-! ## Values in capitals -/

/-- A line of capitals, digits and underscores: at least one of them, and a line end behind them. -/
def IsCapitalsLine (value : String) : Prop :=
  ∃ line : String, line ≠ "" ∧ Chars.IsCapitals line.toList ∧ value = line ++ "\n"

/-- A line end is no capital, digit or underscore. -/
theorem lineEnd_not_mem {s : List Char} (capitals : Chars.IsCapitals s) : '\n' ∉ s :=
  fun member => absurd (capitals _ member) (by decide)

/-- The characters of a line of capitals. -/
theorem isCapitalsLine_iff (value : String) :
    IsCapitalsLine value ↔
      ∃ line, line ≠ [] ∧ Chars.IsCapitals line ∧ value.toList = line ++ ['\n'] := by
  constructor
  · rintro ⟨line, nonempty, capitals, rfl⟩
    exact ⟨line.toList, mt String.toList_eq_nil_iff.1 nonempty, capitals, String.toList_append⟩
  · rintro ⟨line, nonempty, capitals, chars⟩
    refine ⟨String.ofList line, ?_, by rwa [String.toList_ofList], String.toList_inj.1 ?_⟩
    · rwa [Ne, ← String.toList_eq_nil_iff, String.toList_ofList]
    · rw [chars, String.toList_append, String.toList_ofList]
      rfl

/-- A value is not sanitized where it is in capitals or a line of them. -/
theorem isUpperSnakeLine_iff (value : String) :
    isUpperSnakeLine value = true ↔
      value ≠ "" ∧ Chars.IsCapitals value.toList ∨ IsCapitalsLine value := by
  have spelt (line : List Char) :
      (!line.isEmpty && line.all fun c => c.isUpper || c.isDigit || c == '_') = true ↔
        line ≠ [] ∧ Chars.IsCapitals line := by
    rw [Bool.and_eq_true, List.all_eq_true, Bool.not_eq_true', List.isEmpty_eq_false_iff,
      Chars.IsCapitals]
  have backwards (line : List Char) : Chars.IsCapitals line.reverse ↔ Chars.IsCapitals line :=
    forall_congr' fun c => imp_congr_left List.mem_reverse
  simp only [isUpperSnakeLine, spelt]
  split
  · rename_i rest ends
    have chars : value.toList = rest.reverse ++ ['\n'] := by
      rw [← List.reverse_cons, ← ends, List.reverse_reverse]
    rw [isCapitalsLine_iff, chars, or_iff_right]
    · constructor
      · rintro ⟨nonempty, capitals⟩
        exact ⟨rest.reverse, mt List.reverse_eq_nil_iff.1 nonempty, (backwards rest).2 capitals,
          rfl⟩
      · rintro ⟨line, nonempty, capitals, same⟩
        obtain rfl := List.append_cancel_right same
        exact ⟨mt List.reverse_eq_nil_iff.2 nonempty, (backwards rest).1 capitals⟩
    · rintro ⟨-, capitals⟩
      exact lineEnd_not_mem capitals (by simp)
  · rename_i unended
    rw [or_iff_left, backwards, Ne, List.reverse_eq_nil_iff, String.toList_eq_nil_iff]
    rw [isCapitalsLine_iff]
    rintro ⟨line, -, -, chars⟩
    refine unended line.reverse ?_
    rw [chars, List.reverse_append, List.reverse_singleton, List.singleton_append]

/-! ## Constants and what they are made of -/

/-- What constants are made of: capitals, digits and underscores, at least one of them and no
underscore at the ends. -/
structure IsConstantBody (body : String) : Prop where
  /-- There is something to name the constant by. -/
  nonempty : body ≠ ""
  /-- There are only capitals, digits and underscores in it. -/
  capitals : Chars.IsCapitals body.toList
  /-- No underscore stands at an end. -/
  trimmed : Chars.IsTrimmed (· == '_') body.toList

instance (body : String) : Decidable (IsConstantBody body) :=
  decidable_of_iff (body ≠ "" ∧ Chars.IsCapitals body.toList ∧
    Chars.IsTrimmed (· == '_') body.toList)
    ⟨fun all => ⟨all.1, all.2.1, all.2.2⟩, fun body => ⟨body.nonempty, body.capitals, body.trimmed⟩⟩

/-- The constant that is made of a body, where only the words of Go are reserved. -/
def constantOfBody (body : String) : String :=
  if plain.isReserved body then body ++ "_"
  else if startsWithDigit body then numberStart ++ body else body

/-- A free body without a digit in front is a constant. -/
theorem constantOfBody_of_isFree {body : String} (free : IsFree body)
    (letter : startsWithDigit body = false) : constantOfBody body = body := by
  rw [constantOfBody, (ReservedWords.isReserved_plain body).2 free, letter]
  rfl

/-- Reserved words begin with small letters. -/
theorem startsSmall_of_reserved :
    ∀ word ∈ GoWords.reserved, word.toList.head?.any Char.isLower = true := by
  decide +kernel

namespace IsConstantBody

variable {body : String} (isBody : IsConstantBody body)

include isBody

/-- Such a body begins with a capital or a digit. -/
theorem startsName : Chars.StartsName body.toList := by
  obtain ⟨nonempty, capitals, trimmed⟩ := isBody
  cases chars : body.toList with
  | nil => exact absurd (String.toList_eq_nil_iff.1 chars) nonempty
  | cons c rest =>
    rw [chars] at capitals trimmed
    have here := capitals c List.mem_cons_self
    have other : (c == '_') = false := trimmed.first
    rw [other, Bool.or_false, Bool.or_eq_true] at here
    refine here.imp id fun digit => ?_
    exact (Chars.isDigit_of_ascii
      (Chars.ascii_of_isBodyChar (capitals.isBody c List.mem_cons_self))).trans digit

/-- A reserved body begins with a capital. -/
theorem startsCapital (held : plain.isReserved body = true) :
    Chars.startsCapital body.toList = true := by
  have small := startsSmall_of_reserved _
    ((ReservedWords.escapesByUnderscore_plain.isReserved_iff body).1 held).2
  rw [Text.toList_lower, Chars.lower_of_ascii _ isBody.capitals.isBody.isAscii] at small
  cases chars : body.toList with
  | nil =>
    rw [chars] at small
    cases small
  | cons c rest =>
    rw [chars] at small
    obtain ⟨body, notSmall⟩ := Chars.isBodyChar_of_capital
      (isBody.capitals c (chars ▸ List.mem_cons_self))
    exact Chars.ascii_induction
      (P := fun c => c.toLower.isLower = true → c.isLower = false → c.isUpper = true) (by decide)
      (Chars.ascii_of_isBodyChar body) small notSmall

/-- A reserved body is its own camel case, having no underscore. -/
theorem camel_eq (held : plain.isReserved body = true) : camel body = body := by
  have clean : '_' ∉ body.toList := fun member => by
    rw [(ReservedWords.isReserved_plain body).2 (isFree_of_underscore member)] at held
    cases held
  apply String.toList_inj.1
  rw [toList_camel]
  exact Chars.camel_of_startsName isBody.capitals.isBody clean isBody.startsName

/-- The constant of a body is spelt as fields are. -/
theorem isFieldName_constantOfBody : IsFieldName (constantOfBody body) := by
  have spelt := isBody.capitals.isBody
  rw [constantOfBody]
  split
  · rename_i held
    refine (LeadsWithCapital.of_startsCapital (isBody_append spelt
      (Chars.isBody_of_all rfl)) ?_).isFieldName
    rw [String.toList_append]
    exact Chars.startsCapital_append (isBody.startsCapital held) _
  · split
    · rw [IsFieldName, String.toList_append]
      exact ⟨rfl, spelt⟩
    · rename_i letter
      exact (LeadsWithCapital.of_startsCapital spelt
        (isBody.startsName.resolve_right letter)).isFieldName

end IsConstantBody

/-! ## Bodies of values -/

/-- Unless a value is a line of capitals its body is in capitals. -/
theorem isCapitals_enumBody {value : String} (notLine : ¬ IsCapitalsLine value) :
    Chars.IsCapitals (enumBody value).toList := by
  intro c member
  rw [enumBody, Text.toList_trim] at member
  have there := Chars.trim_subset _ _ member
  split at there
  · rename_i already
    exact (((isUpperSnakeLine_iff value).1 already).resolve_right notLine).2 c there
  · rw [toList_sanitize, Text.toList_upper] at there
    exact Chars.isCapitals_sanitize_upper _ c there

/-- Unless a value is a line of capitals, a constant is made of its body if there is one. -/
theorem isConstantBody_enumBody {value : String} (notLine : ¬ IsCapitalsLine value)
    (nonempty : enumBody value ≠ "") : IsConstantBody (enumBody value) := by
  refine ⟨nonempty, isCapitals_enumBody notLine, ?_⟩
  rw [enumBody, Text.toList_trim]
  exact Chars.isTrimmed_trim _ _

/-- The constant of a text whose body is one that constants are made of. -/
theorem IsConstantBody.name_textEnumName {value : String}
    (isBody : IsConstantBody (enumBody value)) :
    (textEnumName plain value).name = .ofText (constantOfBody (enumBody value)) := by
  have nonempty : (enumBody value).isEmpty = false :=
    String.isEmpty_eq_false_iff.2 isBody.nonempty
  simp only [textEnumName, nonempty, Bool.false_eq_true, if_false, constantOfBody]
  split
  · rename_i held
    have escaped : plain.escape (enumBody value) = .ofText (camel (enumBody value) ++ "_") := rfl
    rw [Named.corrected, escaped, isBody.camel_eq held]
  · split
    · rfl
    · rfl

/-- The words that are put in the place of a value, in capitals. -/
def capitalWords : List (List Char) :=
  emptyEnumName.toList :: symbolWords.map fun entry => Chars.upper entry.2.toList

/-- These words begin with a capital and do not end with an underscore. -/
theorem spelling_of_capitalWords : ∀ word ∈ capitalWords, Chars.IsCapitals word ∧
    Chars.startsCapital word = true ∧ word.getLast?.any (· == '_') = false := by
  decide +kernel

/-- A free word that is put in the place of a value is a constant and made of itself. -/
theorem constantOfBody_of_capitalWord {name : String} (listed : name.toList ∈ capitalWords)
    (free : IsFree name) : IsConstantBody name ∧ constantOfBody name = name := by
  obtain ⟨capitals, capital, last⟩ := spelling_of_capitalWords _ listed
  have letter : startsWithDigit name = false :=
    Chars.startsWithDigit_of_startsCapital capitals.isBody capital
  refine ⟨⟨?_, capitals, ?_, last⟩, constantOfBody_of_isFree free letter⟩
  · rintro rfl
    cases capital
  · cases chars : name.toList with
    | nil => rfl
    | cons c rest =>
      rw [chars] at capital
      exact beq_eq_false_iff_ne.2 (Chars.isBodyChar_of_isUpper capital).2

/-- Unless a value is a line of capitals its constant is made of a body. -/
theorem exists_constantOfBody {value datatype : String}
    (text : GoWords.isUnquotedType datatype = false) (notLine : ¬ IsCapitalsLine value) :
    ∃ body, IsConstantBody body ∧
      (enumConstantName plain value datatype).name = .ofText (constantOfBody body) := by
  obtain ⟨isPlaceholder, placeholder⟩ :=
    constantOfBody_of_capitalWord List.mem_cons_self isFree_emptyEnumName
  rw [enumConstantName, text, if_neg Bool.false_ne_true]
  split
  · exact ⟨emptyEnumName, isPlaceholder, by rw [placeholder]; rfl⟩
  · split
    · rename_i word named
      have listed : (Text.upper word).toList ∈ capitalWords := by
        rw [Text.toList_upper]
        exact List.mem_cons_of_mem _ (List.mem_map.2 ⟨(value, word), mem_symbolWords named, rfl⟩)
      obtain ⟨isBody, same⟩ := constantOfBody_of_capitalWord listed (isFree_symbolName named)
      exact ⟨Text.upper word, isBody, by rw [same]; rfl⟩
    · by_cases empty : enumBody value = ""
      · refine ⟨emptyEnumName, isPlaceholder, ?_⟩
        rw [placeholder, textEnumName, empty]
        rfl
      · have isBody := isConstantBody_enumBody notLine empty
        exact ⟨enumBody value, isBody, isBody.name_textEnumName⟩

/-! ## Values that are lines of capitals -/

/-- No symbol with a word has a line end. -/
theorem lineEnd_not_mem_symbolWords : ∀ entry ∈ symbolWords, '\n' ∉ entry.1.toList := by
  decide

namespace IsCapitalsLine

variable {value : String} (line : IsCapitalsLine value)

include line

/-- The line end is in the value. -/
theorem lineEnd_mem : '\n' ∈ value.toList := by
  obtain ⟨text, -, -, rfl⟩ := line
  rw [String.toList_append]
  exact List.mem_append_right _ List.mem_cons_self

/-- The line end is neither sanitized nor trimmed off. -/
theorem lineEnd_mem_enumBody : '\n' ∈ (enumBody value).toList := by
  rw [enumBody, if_pos ((isUpperSnakeLine_iff value).2 (.inr line)), Text.toList_trim]
  exact Chars.mem_trim line.lineEnd_mem rfl

/-- For the sake of its line end the body of such a line is no reserved word. -/
theorem unreserved : plain.isReserved (enumBody value) = false := by
  refine (ReservedWords.isReserved_plain _).2 fun reserved => ?_
  have lowered : '\n' ∈ (Text.lower (enumBody value)).toList := by
    rw [Text.toList_lower]
    exact Chars.mem_lower (by decide) rfl line.lineEnd_mem_enumBody
  exact absurd (isBody_of_reserved reserved _ lowered) (by decide)

/-- The constant of a line of capitals keeps the line end. -/
theorem lineEnd_mem_constant {datatype : String} (text : GoWords.isUnquotedType datatype = false) :
    ∃ name, (enumConstantName plain value datatype).name = .ofText name ∧ '\n' ∈ name.toList := by
  have inBody := line.lineEnd_mem_enumBody
  have filled {s : String} (member : '\n' ∈ s.toList) : s.isEmpty = false := by
    refine String.isEmpty_eq_false_iff.2 fun empty => ?_
    rw [empty] at member
    cases member
  have noSymbol : symbolName value = none := symbolName_eq_none fun entry listed same =>
    lineEnd_not_mem_symbolWords entry listed (same ▸ line.lineEnd_mem)
  simp only [enumConstantName, filled line.lineEnd_mem, text, noSymbol, textEnumName,
    filled inBody, line.unreserved, Bool.false_eq_true, if_false]
  split
  · refine ⟨numberStart ++ enumBody value, rfl, ?_⟩
    rw [String.toList_append]
    exact List.mem_append_right _ inBody
  · exact ⟨enumBody value, rfl, inBody⟩

end IsCapitalsLine

/-! ## Spelling -/

/-- Without settings a constant is the computed one. -/
theorem Naming.enumConstantName_plain {value datatype name : String}
    (named : (GoBindings.enumConstantName plain value datatype).name = .ofText name) :
    (Naming.enumConstantName ⟨{}, plain⟩ value datatype).result = .ok (.ofText name) := by
  rw [Naming.enumConstantName_result_of_unmapped rfl, named]

/-- Without settings every value of a text type has a constant. It is spelt as fields are, and so a
legal identifier, exactly where the value is not a line of capitals: such a line is taken as it is,
and its line end stays in the name. -/
theorem enumConstantName_spelt_iff (value : String) {datatype : String}
    (text : GoWords.isUnquotedType datatype = false) :
    ∃ naming, Naming.ofSettings {} = .ok naming ∧ ∃ name : String,
      (naming.enumConstantName value datatype).result = .ok (.ofText name) ∧
      (IsFieldName name ↔ ¬ IsCapitalsLine value) ∧
      (IsIdentifier name ↔ ¬ IsCapitalsLine value) := by
  refine ⟨_, Naming.ofSettings_default, ?_⟩
  by_cases line : IsCapitalsLine value
  · obtain ⟨name, named, member⟩ := line.lineEnd_mem_constant text
    have notBody : ¬ Chars.IsBody name.toList := fun body => absurd (body _ member) (by decide)
    exact ⟨name, Naming.enumConstantName_plain named,
      iff_of_false (fun field => notBody field.isBody) (not_not.2 line),
      iff_of_false (fun identifier => notBody identifier.isBody) (not_not.2 line)⟩
  · obtain ⟨body, isBody, named⟩ := exists_constantOfBody text line
    obtain ⟨name, namedFree, free⟩ := isFree_enumConstantName value datatype
    have same : constantOfBody body = name := congrArg Label.text (named.symm.trans namedFree)
    rw [← same] at free
    have field := isBody.isFieldName_constantOfBody
    exact ⟨constantOfBody body, Naming.enumConstantName_plain named, iff_of_true field line,
      iff_of_true (field.isIdentifier free) line⟩

/-- The value `3 größte Straßen`, whose letters are not all ASCII and which begins with a digit, has
a constant that is a legal identifier. -/
theorem umlauts_spelt :
    GoWords.isUnquotedType "string" = false ∧
    ∃ naming, Naming.ofSettings {} = .ok naming ∧ ∃ name : String,
      (naming.enumConstantName "3 größte Straßen" "string").result = .ok (.ofText name) ∧
      IsFieldName name ∧ IsIdentifier name := by
  have text : GoWords.isUnquotedType "string" = false := by decide
  have notLine : ¬ IsCapitalsLine "3 größte Straßen" := fun line =>
    absurd line.lineEnd_mem (by decide)
  obtain ⟨naming, built, name, given, field, identifier⟩ :=
    enumConstantName_spelt_iff "3 größte Straßen" text
  exact ⟨text, naming, built, name, given, field.2 notLine, identifier.2 notLine⟩

/-- The value `OK` with a line end behind it is its own constant, which is no identifier. -/
theorem line_end_in_constant :
    GoWords.isUnquotedType "string" = false ∧
    ∃ naming, Naming.ofSettings {} = .ok naming ∧
      (naming.enumConstantName "OK\n" "string").result = .ok (.ofText "OK\n") ∧
      ¬ IsFieldName "OK\n" ∧ ¬ IsIdentifier "OK\n" := by
  have named : (enumConstantName plain "OK\n" "string").name = .ofText "OK\n" := rfl
  have notBody : ¬ Chars.IsBody "OK\n".toList := by decide
  exact ⟨by decide, _, Naming.ofSettings_default, Naming.enumConstantName_plain named,
    fun field => notBody field.isBody, fun identifier => notBody identifier.isBody⟩

end GoBindings
