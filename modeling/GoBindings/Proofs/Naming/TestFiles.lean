import GoBindings.Proofs.Naming.StableFiles

/-!
# Test files of different groups

The test file of a group is the interface file of the group with the ending of test files behind it.
A name that is that of a test file already is the exception: it stays, so it shares the test file
with the group that the file was named for, although its own interface file is another one. The main
statement says that among groups of different interface files there is no other clash. It leaves out
the names that have the ending in snake case without being names of test files, such as `pet_test`.
-/

namespace GoBindings

/-- A group name in snake case with the ending of test files, which the rule for them takes off. -/
structure HasTestEnding (raw : String) : Prop where
  /-- It ends as test files do. -/
  ending : Text.endsWith testFileEnding (sanitize raw) = true
  /-- It is in snake case. -/
  small : isLowerSnake (sanitize raw) = true

/-- A group name from which the ending is taken only if it is the name of a test file. -/
def IsGroupOrTestFile (raw : String) : Prop := HasTestEnding raw → IsTestFile (sanitize raw)

/-- A group name that is the name of the test file of an interface file. -/
structure NamesTestOf (raw file : String) : Prop where
  /-- It is the test file of an interface file. -/
  form : IsFileOf apiFileStart file
  /-- It is spelt as the file with the ending of test files. -/
  spelt : sanitize raw = file ++ testFileEnding

/-- The interface file that the tests of a group are for. -/
inductive TestsFile (raw file : String) : Prop where
  /-- The tests of a group are for its own file. -/
  | group (plain : ¬IsTestFile (sanitize raw)) (own : file = (apiFileName raw).name)
  /-- The tests of the name of a test file are for the file that it names, made safe. -/
  | test {named : String} (names : NamesTestOf raw named) (safe : file = safeFileName named)

/-- The name of the test file of an interface file is that of a test file. -/
theorem NamesTestOf.isTestFile {raw file : String} (names : NamesTestOf raw file) :
    IsTestFile (sanitize raw) :=
  ⟨file, names.form, names.spelt⟩

/-- The tests of every group are for some file. -/
theorem exists_testsFile (raw : String) : ∃ file, TestsFile raw file := by
  by_cases tested : IsTestFile (sanitize raw)
  · obtain ⟨file, form, spelt⟩ := tested
    exact ⟨_, .test ⟨form, spelt⟩ rfl⟩
  · exact ⟨_, .group tested rfl⟩

/-- The file of a group does not see whether its name was sanitized. -/
theorem name_apiFileName_sanitize (raw : String) :
    (apiFileName (sanitize raw)).name = (apiFileName raw).name := by
  rw [name_apiFileName, name_apiFileName, apiFileBody, apiFileBody, snakeBody, snakeBody,
    sanitize_sanitize]

/-- Nothing is taken off a name without the ending. -/
theorem dropTestEnding_of_not {raw : String} (plain : ¬HasTestEnding raw) :
    dropTestEnding raw = sanitize raw := by
  rw [dropTestEnding]
  refine if_neg fun both => plain ?_
  obtain ⟨ending, small⟩ := Bool.and_eq_true_iff.1 both
  exact ⟨ending, small⟩

/-- From the name of a test file the ending is taken. -/
theorem NamesTestOf.dropTestEnding_eq {raw file : String} (names : NamesTestOf raw file) :
    dropTestEnding raw = file := by
  have same : dropTestEnding raw = dropTestEnding (sanitize raw) := by
    rw [dropTestEnding, dropTestEnding, sanitize_sanitize]
  rw [same, names.spelt, dropTestEnding_append (names.form.small rfl)]

/-- The test file of a group is that of the file that its tests are for. -/
theorem TestsFile.name_apiTestFileName {raw file : String} (tests : TestsFile raw file)
    (named : IsGroupOrTestFile raw) : (apiTestFileName raw).name = file ++ testFileEnding := by
  change (apiFileName (dropTestEnding raw)).name ++ testFileEnding = file ++ testFileEnding
  cases tests with
  | group plain own =>
    rw [dropTestEnding_of_not fun ending => plain (named ending), name_apiFileName_sanitize, own]
  | test names safe =>
    rw [names.dropTestEnding_eq, name_apiFileName, names.form.apiFileBody_eq, safe]

/-- Groups of different interface files share their test file just where the name of one of them is
that of a test file, and the file that it names, made safe, is the one that the tests of the other
are for. Two groups that are no test files have test files of their own. -/
theorem apiTestFileName_eq_iff {first second : String} (one : IsGroupOrTestFile first)
    (two : IsGroupOrTestFile second)
    (apart : (apiFileName first).name ≠ (apiFileName second).name) :
    (apiTestFileName first).name = (apiTestFileName second).name ↔
      (∃ file, NamesTestOf first file ∧ TestsFile second (safeFileName file)) ∨
      (∃ file, NamesTestOf second file ∧ TestsFile first (safeFileName file)) := by
  constructor
  · intro same
    obtain ⟨file, tests⟩ := exists_testsFile first
    obtain ⟨other, othersTests⟩ := exists_testsFile second
    rw [tests.name_apiTestFileName one, othersTests.name_apiTestFileName two] at same
    have shared : file = other := (String.append_left_inj _).1 same
    subst shared
    cases tests with
    | test names safe => exact .inl ⟨_, names, safe ▸ othersTests⟩
    | group plain own =>
      cases othersTests with
      | group _ othersOwn => exact absurd (own.symm.trans othersOwn) apart
      | test names safe => exact .inr ⟨_, names, safe ▸ .group plain own⟩
  · rintro (⟨file, names, tests⟩ | ⟨file, names, tests⟩)
    · rw [(TestsFile.test names rfl).name_apiTestFileName one, tests.name_apiTestFileName two]
    · rw [tests.name_apiTestFileName one, (TestsFile.test names rfl).name_apiTestFileName two]

/-- Two names of test files share one where making the first file safe gives the second. -/
theorem safe_test_file_shared :
    (apiFileName "api_linux_test").name ≠ (apiFileName "api_linux__test").name ∧
      (apiTestFileName "api_linux_test").name = (apiTestFileName "api_linux__test").name := by
  have one : NamesTestOf "api_linux_test" "api_linux" :=
    ⟨⟨"linux", List.all_eq_true.1 rfl, rfl⟩, by decide⟩
  have two : NamesTestOf "api_linux__test" "api_linux_" :=
    ⟨⟨"linux_", List.all_eq_true.1 rfl, rfl⟩, by decide⟩
  have made : safeFileName "api_linux" = safeFileName "api_linux_" := by decide
  have tests : TestsFile "api_linux__test" (safeFileName "api_linux") := .test two made
  have apart : (apiFileName "api_linux_test").name ≠ (apiFileName "api_linux__test").name := by
    decide
  exact ⟨apart, (apiTestFileName_eq_iff (fun _ => one.isTestFile) (fun _ => two.isTestFile)
    apart).2 (.inl ⟨_, one, tests⟩)⟩

/-- The group `Pet` and the group that has the name of its test file have different files, but one
test file. -/
theorem test_file_shared_with_group :
    (apiFileName "Pet").name ≠ (apiFileName "api_pet_test").name ∧
      (apiTestFileName "Pet").name = (apiTestFileName "api_pet_test").name := by
  decide

end GoBindings
