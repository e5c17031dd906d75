import GoBindings.Generator
import GoBindings.Proofs.Naming.ExtraWords
import GoBindings.Proofs.Reports
import Mathlib.Data.Set.Function
import Mathlib.Data.List.Nodup

/-!
# Constants of number values

The constant of a number spells out the signs and points, one kind after the other. No word that is
put in is touched by what is replaced after it, so the replacements together replace each character
on its own. The words for the characters of number literals begin with different characters, whence
a text is read off from its spelling. The main statement: different number literals have different
constants, and all of them are legal identifiers.
-/

namespace GoBindings

open ReservedWords (plain)

namespace Chars

/-! ## Codes -/

/-- A list is read off from its code where the words of the code are not empty and begin with
different characters: the first characters of two codes are those of their first words. -/
theorem eq_of_flatMap_eq {code : Char → List Char} {alphabet : List Char}
    (filled : ∀ c ∈ alphabet, code c ≠ []) (apart : (alphabet.map fun c => (code c).head?).Nodup)
    {s t : List Char} (left : s ⊆ alphabet) (right : t ⊆ alphabet)
    (same : s.flatMap code = t.flatMap code) : s = t := by
  induction s generalizing t with
  | nil =>
    cases t with
    | nil => rfl
    | cons d t =>
      have word : code d = [] := (List.flatMap_eq_nil_iff.1 same.symm) d List.mem_cons_self
      exact absurd word (filled d (right List.mem_cons_self))
  | cons c s ih =>
    obtain ⟨here, leftRest⟩ := List.cons_subset.1 left
    cases t with
    | nil => exact absurd (List.flatMap_eq_nil_iff.1 same c List.mem_cons_self) (filled c here)
    | cons d t =>
      obtain ⟨there, rightRest⟩ := List.cons_subset.1 right
      rw [List.flatMap_cons, List.flatMap_cons] at same
      have heads : (code c).head? = (code d).head? := by
        have first := congrArg List.head? same
        rwa [List.head?_append_of_ne_nil _ (filled c here),
          List.head?_append_of_ne_nil _ (filled d there)] at first
      obtain rfl := List.inj_on_of_nodup_map apart here there heads
      rw [ih leftRest rightRest (List.append_cancel_left same)]

end Chars

/-! ## Number literals -/

/-- The characters of number literals: digits, marks of exponents, signs and points. -/
def numeralChars : List Char := "0123456789eE+-.".toList

/-- A text of characters of number literals, with at least one of them. -/
structure IsNumeral (value : String) : Prop where
  /-- There is something in it. -/
  nonempty : value ≠ ""
  /-- There is nothing but the characters of number literals in it. -/
  chars : value.toList ⊆ numeralChars

instance (value : String) : Decidable (IsNumeral value) :=
  decidable_of_iff (value ≠ "" ∧ value.toList.all fun c => numeralChars.contains c) (by
    simp only [List.all_eq_true, List.contains_iff_mem]
    exact ⟨fun all => ⟨all.1, all.2⟩, fun numeral => ⟨numeral.nonempty, numeral.chars⟩⟩)

/-- The word for a character of a number: the character with all spellings made in it. -/
def numberWord (c : Char) : List Char :=
  numberSpellings.foldl (fun word entry => word.flatMap (spellChar entry.1 entry.2)) [c]

/-- A number is spelt out character by character. -/
theorem toList_spellNumber (value : String) :
    (spellNumber value).toList = value.toList.flatMap numberWord := by
  rw [spellNumber, Text.toList_foldl_replaceChars fun entry : Char × String =>
    spellChar entry.1 entry.2]
  rfl

/-- The words for the characters of number literals are of letters, digits and underscores, with at
least one of them. -/
theorem spelling_of_numberWord {c : Char} (member : c ∈ numeralChars) :
    numberWord c ≠ [] ∧ Chars.IsBody (numberWord c) := by
  have check : numeralChars.all fun c => numberWord c ≠ [] ∧ Chars.IsBody (numberWord c) := by
    decide
  exact of_decide_eq_true (List.all_eq_true.1 check c member)

/-- The words for the characters of number literals begin with different characters. -/
theorem numberWord_apart : (numeralChars.map fun c => (numberWord c).head?).Nodup := by
  decide

/-- A name as constants of numbers have it, `_[A-Za-z0-9_]*`. -/
def IsNumberConstant (name : String) : Prop :=
  Chars.IsWord (· == '_') Chars.isBodyChar name.toList

/-- Such a name is spelt as fields are. -/
theorem IsNumberConstant.isFieldName {name : String} (constant : IsNumberConstant name) :
    IsFieldName name :=
  Chars.IsWord.mono constant (fun c start => by rw [start, Bool.or_true]) fun _ body => body

namespace IsNumeral

variable {value : String} (numeral : IsNumeral value)

include numeral

/-- A number literal does not look like a constant. -/
theorem startsWith_eq_false : Text.startsWith numberStart value = false := by
  refine Bool.eq_false_iff.2 fun starts => ?_
  have member : '_' ∈ value.toList :=
    ((Text.startsWith_iff _ _).1 starts).subset List.mem_cons_self
  exact absurd (numeral.chars member) (by decide)

/-- The constant of a number literal is an underscore and the spelling of the number. -/
theorem toList_numberEnumName :
    (numberEnumName value).toList = '_' :: value.toList.flatMap numberWord := by
  rw [numberEnumName, numeral.startsWith_eq_false, if_neg Bool.false_ne_true, String.toList_append,
    toList_spellNumber]
  rfl

/-- The constant of a number literal is spelt as constants of numbers are. -/
theorem isNumberConstant : IsNumberConstant (numberEnumName value) := by
  rw [IsNumberConstant, numeral.toList_numberEnumName]
  refine ⟨rfl, fun d member => ?_⟩
  obtain ⟨c, there, inside⟩ := List.mem_flatMap.1 member
  exact (spelling_of_numberWord (numeral.chars there)).2 d inside

/-- The constant of a number literal is a legal identifier. -/
theorem isIdentifier : IsIdentifier (numberEnumName value) :=
  numeral.isNumberConstant.isFieldName.isIdentifier (isFree_numberEnumName value)

end IsNumeral

/-- Different number literals have different constants. -/
theorem injOn_numberEnumName : Set.InjOn numberEnumName {value | IsNumeral value} := by
  intro value numeral other otherNumeral same
  have chars := congrArg String.toList same
  rw [numeral.toList_numberEnumName, otherNumeral.toList_numberEnumName] at chars
  have filled (c : Char) (member : c ∈ numeralChars) := (spelling_of_numberWord member).1
  exact String.toList_inj.1 (Chars.eq_of_flatMap_eq filled numberWord_apart numeral.chars
    otherNumeral.chars (List.cons.inj chars).2)

/-- Where no enumeration is overridden the constant of a number literal is the computed one. -/
theorem Naming.enumConstantName_of_number {naming : Naming}
    (enumerations : naming.settings.enumNameMapping = Table.empty) {datatype : String}
    (number : datatype ∈ GoWords.numberTypes) {value : String} (nonempty : value ≠ "") :
    (naming.enumConstantName value datatype).result = .ok (.ofText (numberEnumName value)) := by
  have filled : value.isEmpty = false := String.isEmpty_eq_false_iff.2 nonempty
  have unquoted : GoWords.isUnquotedType datatype = true := by
    rw [GoWords.isUnquotedType, List.contains_iff_mem.2 number, Bool.true_or]
  rw [Naming.enumConstantName_result_of_unmapped enumerations, GoBindings.enumConstantName, filled,
    unquoted]
  rfl

/-- Where no enumeration is overridden, different number literals of a number type have different
constants, which are legal identifiers. -/
theorem numberConstants_apart {naming : Naming}
    (enumerations : naming.settings.enumNameMapping = Table.empty) {datatype : String}
    (number : datatype ∈ GoWords.numberTypes) :
    (∀ value, IsNumeral value → ∃ name : String,
      (naming.enumConstantName value datatype).result = .ok (.ofText name) ∧
      IsNumberConstant name ∧ IsIdentifier name) ∧
    Set.InjOn (fun value => (naming.enumConstantName value datatype).result)
      {value | IsNumeral value} := by
  have given {value : String} (numeral : IsNumeral value) :=
    Naming.enumConstantName_of_number enumerations number numeral.nonempty
  refine ⟨fun value numeral =>
    ⟨_, given numeral, numeral.isNumberConstant, numeral.isIdentifier⟩, ?_⟩
  intro value numeral other otherNumeral same
  have names : Except.ok (Label.ofText (numberEnumName value)) =
      Except.ok (Label.ofText (numberEnumName other)) :=
    (given numeral).symm.trans (same.trans (given otherNumeral))
  exact injOn_numberEnumName numeral otherNumeral (congrArg Label.text (Except.ok.inj names))

/-- The literals `-1.5e+3` and `15e+3` of the type `float64` have different constants, the first of
which is `_MINUS_1_DOT_5ePLUS_3`. -/
theorem signed_numbers_apart :
    ∃ naming, Naming.ofSettings {} = .ok naming ∧
      naming.settings.enumNameMapping = Table.empty ∧ "float64" ∈ GoWords.numberTypes ∧
      IsNumeral "-1.5e+3" ∧ IsNumeral "15e+3" ∧
      (naming.enumConstantName "-1.5e+3" "float64").result =
        .ok (.ofText "_MINUS_1_DOT_5ePLUS_3") ∧
      IsNumberConstant "_MINUS_1_DOT_5ePLUS_3" ∧ IsIdentifier "_MINUS_1_DOT_5ePLUS_3" ∧
      (naming.enumConstantName "-1.5e+3" "float64").result ≠
        (naming.enumConstantName "15e+3" "float64").result := by
  have unmapped : (⟨{}, plain⟩ : Naming).settings.enumNameMapping = Table.empty := rfl
  have number : "float64" ∈ GoWords.numberTypes := by decide
  have first : IsNumeral "-1.5e+3" := by decide
  have second : IsNumeral "15e+3" := by decide
  have named : numberEnumName "-1.5e+3" = "_MINUS_1_DOT_5ePLUS_3" := rfl
  have computed := Naming.enumConstantName_of_number unmapped number first.nonempty
  obtain ⟨spelt, apart⟩ := numberConstants_apart unmapped number
  obtain ⟨name, given, constant, identifier⟩ := spelt "-1.5e+3" first
  obtain rfl : numberEnumName "-1.5e+3" = name :=
    congrArg Label.text (Except.ok.inj (computed.symm.trans given))
  rw [named] at given constant identifier
  exact ⟨_, Naming.ofSettings_default, unmapped, number, first, second, given, constant,
    identifier, apart.ne first second (by decide)⟩

/-- The distinct number literals of an enumeration of a number type give constants of distinct
names. -/
theorem Generator.nodup_constants {generator : Generator}
    (enumerations : generator.naming.settings.enumNameMapping = Table.empty)
    {enumeration : Enumeration} {datatype : String} {constants : List GoConstant}
    (done : (generator.processEnumeration (some enumeration)).result =
      .ok (some datatype, constants))
    (number : datatype ∈ GoWords.numberTypes)
    (numerals : ∀ value ∈ enumeration.values, IsNumeral value)
    (distinct : enumeration.values.Nodup) : (constants.map GoConstant.name).Nodup := by
  obtain ⟨_, _, rest⟩ := Report.result_bind_eq_ok.1 done
  obtain ⟨values, traversed, last⟩ := Report.result_bind_eq_ok.1 rest
  cases last
  have each (value : String) (member : value ∈ enumeration.values) :
      (generator.processConstant datatype value).result =
        .ok ⟨.ofText (numberEnumName value), enumLiteral value datatype⟩ := by
    rw [Generator.processConstant, Report.result_bind,
      Naming.enumConstantName_of_number enumerations number (numerals value member).nonempty]
    rfl
  obtain rfl := Except.ok.inj (traversed.symm.trans (Report.result_mapM_of_results each))
  rw [List.map_map]
  refine distinct.map_on fun value member other otherMember same => ?_
  exact injOn_numberEnumName (numerals value member) (numerals other otherMember)
    (congrArg Label.text same)

end GoBindings
