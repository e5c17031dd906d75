import GoBindings.ImportSet

/-!
# Histories of import sets

What is done to the imports of a file, one step after another, and what each step answers. An
expansion makes a new set that is worked on from then on; the set that was expanded is kept beside
it.
-/

namespace GoBindings

/-- A step that is taken with a set of imports. -/
inductive ImportStep where
  /-- A path is added. -/
  | add (path : Label)
  /-- Several paths are added in order. -/
  | addAll (paths : List Label)
  /-- The paths under a start are dropped. -/
  | dropUnder (start : String)
  /-- The paths of a table are replaced. -/
  | expand (table : Table Label (List Label))

/-- What a step answers. -/
inductive ImportAnswer where
  /-- There is nothing to tell. -/
  | nothing
  /-- Whether the path was new. -/
  | isNew (new : Bool)
  /-- The paths that were dropped. -/
  | dropped (paths : List Label)

/-- The set that is worked on, and the sets that were expanded before, the latest first. -/
structure ImportHistory where
  /-- The set that is worked on. -/
  current : ImportSet
  /-- The sets that were expanded. -/
  expandedBefore : List ImportSet := []

namespace ImportHistory

/-- One step with its answer. -/
def take (history : ImportHistory) : ImportStep → ImportAnswer × ImportHistory
  | .add path =>
    (.isNew (!history.current.contains path),
      { history with current := history.current.add path })
  | .addAll paths => (.nothing, { history with current := history.current.addAll paths })
  | .dropUnder start =>
    (.dropped (history.current.pathsUnder start),
      { history with current := history.current.dropUnder start })
  | .expand table =>
    (.nothing, ⟨history.current.expanded table, history.current :: history.expandedBefore⟩)

/-- Steps one after another, each with its answer. -/
def takeAll (history : ImportHistory) :
    List ImportStep → List (ImportStep × ImportAnswer) × ImportHistory
  | [] => ([], history)
  | step :: rest =>
    let (answer, next) := history.take step
    let (later, last) := next.takeAll rest
    ((step, answer) :: later, last)

end ImportHistory

end GoBindings
