import GoBindings.Label
import GoBindings.Table
import GoBindings.Text.Segments

/-!
# Import sets

The imports of one file: paths in the order in which they were first added, each once. Paths are
labels, since users may replace a path by a value of any kind. The main statements: a path is a
member after it was added, and adding changes nothing where it was one.
-/

namespace GoBindings

/-- Import paths in order of first addition. -/
structure ImportSet where
  /-- The paths in order. -/
  paths : List Label
  /-- No two paths are the same. -/
  distinct : paths.Pairwise fun a b => (a == b) = false

namespace ImportSet

/-- The set without paths. -/
def empty : ImportSet := ⟨[], .nil⟩

/-- Whether a path is in the set. -/
def contains (imports : ImportSet) (path : Label) : Bool := imports.paths.contains path

/-- The set with a path, at the end if it is new. -/
def add (imports : ImportSet) (path : Label) : ImportSet :=
  if there : imports.contains path then imports
  else
    ⟨imports.paths ++ [path], by
      refine List.pairwise_append.mpr ⟨imports.distinct, by simp, fun a member b last => ?_⟩
      simp only [List.mem_singleton] at last
      refine last ▸ Bool.eq_false_iff.mpr fun same => there ?_
      exact List.contains_iff_exists_mem_beq.mpr ⟨a, member, BEq.symm same⟩⟩

/-- The set with several paths added in order. -/
def addAll (imports : ImportSet) (paths : List Label) : ImportSet := paths.foldl add imports

/-- The set of a list of paths. -/
def ofList (paths : List Label) : ImportSet := empty.addAll paths

/-- The number of paths. -/
def size (imports : ImportSet) : Nat := imports.paths.length

/-- Whether a path lies under a start. Nothing lies under the empty start. -/
def isUnder (start : String) (path : Label) : Bool :=
  !start.isEmpty && path.asText?.any (Text.startsWith start)

/-- The paths under a start. -/
def pathsUnder (imports : ImportSet) (start : String) : List Label :=
  imports.paths.filter (isUnder start)

/-- The set without the paths under a start. -/
def dropUnder (imports : ImportSet) (start : String) : ImportSet :=
  ⟨imports.paths.filter (!isUnder start ·), imports.distinct.filter _⟩

/-- What a table of replacements puts in the place of a path; a path without an entry stays. -/
def replacementsOf (table : Table Label (List Label)) (path : Label) : List Label :=
  (table.find? path).getD [path]

/-- The set in which every path of the table is replaced, at its place, by its replacements. -/
def expanded (imports : ImportSet) (table : Table Label (List Label)) : ImportSet :=
  ofList (imports.paths.flatMap (replacementsOf table))

/-- The text that shows a set. -/
def display (imports : ImportSet) : String :=
  "ImportSet(" ++ (Json.ofLabels imports.paths).shown ++ ")"

/-- After a path was added it is a member, and so is what was one before. -/
theorem contains_add (imports : ImportSet) (path other : Label) :
    (imports.add path).contains other = (imports.contains other || other == path) := by
  unfold add
  split
  · rename_i there
    by_cases same : other == path
    · have member : imports.contains other := by
        rw [contains, List.contains_congr same]
        exact there
      simp [member]
    · simp [same]
  · simp [contains, List.contains_append]

/-- Adding a member changes nothing. -/
theorem add_of_contains (imports : ImportSet) {path : Label} (member : imports.contains path) :
    imports.add path = imports := by
  simp [add, member]

end ImportSet

end GoBindings
