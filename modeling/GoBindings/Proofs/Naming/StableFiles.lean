import GoBindings.Proofs.Naming.FileSpelling

/-!
# File names given again

The rules for files recognise a name that already is the name of a file of their kind, and otherwise
make one and put an underscore behind it where the Go tool would read its last part. The rule for
test files takes an ending off first and puts it back last. The main statement says that under any
affixes and reserved words all three give names of their kind, that of these only the names of tests
mean something to the Go tool, so that a test never has the file of a group, and that each rule
leaves its own names alone.
-/

namespace GoBindings

/-! ## Kinds of files -/

/-- A file name of a kind: the start of the kind, then small letters, digits and underscores. -/
def IsFileOf (start file : String) : Prop :=
  ∃ rest : String, Chars.IsSnake rest.toList ∧ file = start ++ rest

/-- A file name of a kind whose last part means nothing to the Go tool. -/
structure IsSafeFileOf (start file : String) : Prop where
  /-- It is of that kind. -/
  form : IsFileOf start file
  /-- Its last part means nothing to the Go tool. -/
  safe : isReservedFileName file = false

/-- The name of a test file: that of an interface file, with the ending of test files behind it. -/
def IsTestFile (file : String) : Prop :=
  ∃ stem : String, IsFileOf apiFileStart stem ∧ file = stem ++ testFileEnding

/-- A name in snake case is of the kind of its start. -/
theorem isFileOf_of_startsWith {start file : String} (begun : Text.startsWith start file = true)
    (small : isLowerSnake file = true) : IsFileOf start file := by
  obtain ⟨rest, chars⟩ := (Text.startsWith_iff _ _).1 begun
  refine ⟨String.ofList rest, fun c member => ?_, ?_⟩
  · rw [String.toList_ofList] at member
    refine ((isLowerSnake_iff file).1 small).2 c ?_
    rw [← chars]
    exact List.mem_append_right _ member
  · apply String.toList_inj.1
    rw [String.toList_append, String.toList_ofList, chars]

/-- A name of a kind begins as its kind does. -/
theorem IsFileOf.startsWith {start file : String} (form : IsFileOf start file) :
    Text.startsWith start file = true := by
  obtain ⟨rest, -, rfl⟩ := form
  exact (Text.startsWith_iff _ _).2 (prefix_toList_append start rest)

/-- A name of a kind whose start is in snake case is in snake case. -/
theorem IsFileOf.small {start file : String} (form : IsFileOf start file)
    (startSmall : isLowerSnake start = true) : isLowerSnake file = true := by
  obtain ⟨rest, snake, rfl⟩ := form
  exact isLowerSnake_append startSmall snake

/-- A name of a kind, made safe, is a safe one of that kind. -/
theorem IsFileOf.isSafeFileOf {start file : String} (form : IsFileOf start file)
    (startSmall : isLowerSnake start = true) : IsSafeFileOf start (safeFileName file) :=
  ⟨isFileOf_of_startsWith (startsWith_safeFileName form.startsWith)
    (isLowerSnake_safeFileName (form.small startSmall)), isReservedFileName_safeFileName file⟩

/-- A safe model file is one of its kind. -/
theorem IsSafeModelFile.isSafeFileOf {file : String} (model : IsSafeModelFile file) :
    IsSafeFileOf modelFileStart file :=
  ⟨isFileOf_of_startsWith model.start model.small, model.safe⟩

/-! ## Files of groups -/

/-- The file name that is taken for a group: its body if that is one already, and else its snake
case behind the start of interface files. -/
def apiFileBody (raw : String) : String :=
  if Text.startsWith apiFileStart (sanitize raw) && isLowerSnake (sanitize raw) then sanitize raw
  else apiFileStart ++ (if (snakeBody raw).isEmpty then "default" else snakeBody raw)

/-- The file of a group is the file name that is taken for it, made safe. -/
theorem name_apiFileName (raw : String) :
    (apiFileName raw).name = safeFileName (apiFileBody raw) :=
  name_freeFileName raw (apiFileBody raw)

/-- The file name that is taken for a group is one of interface files. -/
theorem isFileOf_apiFileBody (raw : String) : IsFileOf apiFileStart (apiFileBody raw) := by
  rw [apiFileBody]
  split
  · rename_i already
    obtain ⟨begun, small⟩ := Bool.and_eq_true_iff.1 already
    exact isFileOf_of_startsWith begun small
  · refine ⟨_, ?_, rfl⟩
    split
    · exact List.all_eq_true.1 rfl
    · rw [snakeBody, toList_snake]
      exact (isBody_sanitized raw).isSnake_snake

/-- Every group has a safe file. -/
theorem isSafeFileOf_apiFileName (raw : String) :
    IsSafeFileOf apiFileStart (apiFileName raw).name := by
  rw [name_apiFileName]
  exact (isFileOf_apiFileBody raw).isSafeFileOf rfl

/-- A name of interface files that is given as a group is taken for its file. -/
theorem IsFileOf.apiFileBody_eq {file : String} (form : IsFileOf apiFileStart file) :
    apiFileBody file = file := by
  have small := form.small rfl
  have kept : sanitize file = file := sanitize_of_isBody ((isLowerSnake_iff file).1 small).2.isBody
  rw [apiFileBody, kept, form.startsWith, small]
  rfl

/-- The rule for the files of groups leaves just the names alone that have the form of its
results. -/
theorem apiFileName_eq_self_iff (file : String) :
    (apiFileName file).name = file ↔ IsSafeFileOf apiFileStart file := by
  constructor
  · intro same
    rw [← same]
    exact isSafeFileOf_apiFileName file
  · intro file
    rw [name_apiFileName, file.form.apiFileBody_eq, safeFileName, file.safe]
    rfl

/-! ## Files of tests -/

/-- A name with the ending of test files means something to the Go tool. -/
theorem isReservedFileName_append_testFileEnding (file : String) :
    isReservedFileName (file ++ testFileEnding) = true := by
  have ending : testFileEnding.toList = '_' :: "test".toList := rfl
  have last : (Text.segments '_' (file ++ testFileEnding)).getLast? = some "test" := by
    rw [Text.segments, String.toList_append, ending, Chars.segments_append,
      Chars.segments_of_not_mem (s := "test".toList) (by decide), List.map_append]
    simp
  rw [isReservedFileName, last]
  decide

/-- The ending of test files is taken off a name in snake case. -/
theorem dropTestEnding_append {file : String} (small : isLowerSnake file = true) :
    dropTestEnding (file ++ testFileEnding) = file := by
  have whole : isLowerSnake (file ++ testFileEnding) = true :=
    isLowerSnake_append small (List.all_eq_true.1 rfl)
  have kept : sanitize (file ++ testFileEnding) = file ++ testFileEnding :=
    sanitize_of_isBody ((isLowerSnake_iff _).1 whole).2.isBody
  have ends : Text.endsWith testFileEnding (file ++ testFileEnding) = true :=
    (Text.endsWith_iff _ _).2 (suffix_toList_append file testFileEnding)
  simp only [dropTestEnding, kept, ends, whole, Bool.and_self, if_true]
  apply String.toList_inj.1
  rw [String.toList_ofList, String.length_append, Nat.add_sub_cancel, String.toList_append,
    List.take_left' (String.length_toList ..)]

/-- The rule for the files of tests leaves the test files of safe interface files alone. -/
theorem apiTestFileName_append {file : String} (group : IsSafeFileOf apiFileStart file) :
    (apiTestFileName (file ++ testFileEnding)).name = file ++ testFileEnding := by
  rw [apiTestFileName, dropTestEnding_append (group.form.small rfl)]
  exact congrArg (· ++ testFileEnding) ((apiFileName_eq_self_iff file).2 group)

/-- The test file of a group ends as test files do behind a safe interface file. -/
theorem exists_apiTestFileName_eq (raw : String) : ∃ file, IsSafeFileOf apiFileStart file ∧
    (apiTestFileName raw).name = file ++ testFileEnding :=
  ⟨_, isSafeFileOf_apiFileName (dropTestEnding raw), rfl⟩

/-! ## All files -/

/-- Where no model is overridden, and whatever the affixes and the reserved words, the files of a
model, of a group and of the tests of a group are named alike: the name is one of its kind, it means
nothing to the Go tool unless it is that of tests, so no group has the file of tests, and the rule
leaves it alone. -/
theorem fileNames_again {naming : Naming}
    (unmapped : naming.settings.modelNameMapping = Table.empty) (raw : String) :
    (∃ file, (naming.modelFileName raw).result = .ok file ∧ IsSafeFileOf modelFileStart file ∧
      (naming.modelFileName file).result = .ok file) ∧
    (IsSafeFileOf apiFileStart (apiFileName raw).name ∧
      (apiFileName (apiFileName raw).name).name = (apiFileName raw).name) ∧
    IsTestFile (apiTestFileName raw).name ∧
      (∀ other : String, (apiTestFileName raw).name ≠ (apiFileName other).name) ∧
      (apiTestFileName (apiTestFileName raw).name).name = (apiTestFileName raw).name := by
  have computed (name : String) :
      (naming.modelFileName name).result = .ok (naming.computedModelFileName name).name := by
    rw [Naming.modelFileName, unmapped]
    rfl
  have model := naming.isSafeModelFile_computedModelFileName raw
  have group := isSafeFileOf_apiFileName raw
  obtain ⟨file, tested, named⟩ := exists_apiTestFileName_eq raw
  refine ⟨⟨_, computed raw, model.isSafeFileOf, ?_⟩,
    ⟨group, (apiFileName_eq_self_iff _).2 group⟩, ?_, fun other same => ?_, ?_⟩
  · rw [computed, (naming.computedModelFileName_eq_self_iff _).2 model]
  · exact ⟨file, tested.form, named⟩
  · have safe := (isSafeFileOf_apiFileName other).safe
    rw [← same, named, isReservedFileName_append_testFileEnding] at safe
    cases safe
  · rw [named, apiTestFileName_append tested]

/-- A prefix that begins with a digit, a suffix that is an operating system and a further reserved
word: the files of `test` are still of their kinds and left alone. -/
theorem affixed_files_again :
    ∃ naming, Naming.ofSettings
        { modelNamePrefix := "9", modelNameSuffix := "Linux", extraReservedWords := ["pet"] } =
          .ok naming ∧
      (∃ file, (naming.modelFileName "test").result = .ok file ∧
        IsSafeFileOf modelFileStart file ∧ (naming.modelFileName file).result = .ok file) ∧
      (IsSafeFileOf apiFileStart (apiFileName "test").name ∧
        (apiFileName (apiFileName "test").name).name = (apiFileName "test").name) ∧
      IsTestFile (apiTestFileName "test").name ∧
        (∀ other : String, (apiTestFileName "test").name ≠ (apiFileName other).name) ∧
        (apiTestFileName (apiTestFileName "test").name).name = (apiTestFileName "test").name := by
  have nothing : Settings.OverridesNothing
      { modelNamePrefix := "9", modelNameSuffix := "Linux", extraReservedWords := ["pet"] } :=
    ⟨rfl, rfl, rfl, rfl, rfl⟩
  have built := ReservedWords.ofSettings_of_small nothing ["pet"] rfl
    (by decide) (by decide) (by decide)
  exact ⟨_, Naming.ofSettings_of_reserved built, fileNames_again rfl "test"⟩

end GoBindings
