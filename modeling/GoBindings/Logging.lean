import GoBindings.Text.Segments

/-!
# Logging

All loggers lie under one name. Setting the level installs one handler, whatever was installed
before; an unknown level leaves the level as it was.
-/

namespace GoBindings.Logging

/-- The name that all loggers lie under. -/
def rootName : String := "schema_codegen"

/-- The full name of a logger. -/
def loggerName (name : String) : String :=
  if name = rootName || Text.startsWith (rootName ++ ".") name then name
  else rootName ++ "." ++ name

/-- The number of a level given by its name. -/
def levelNumber? : String → Option Int
  | "CRITICAL" => some 50
  | "FATAL" => some 50
  | "ERROR" => some 40
  | "WARNING" => some 30
  | "WARN" => some 30
  | "INFO" => some 20
  | "DEBUG" => some 10
  | "NOTSET" => some 0
  | _ => none

/-- A level given by its number or by its name. -/
inductive Level where
  | number (value : Int)
  | name (text : String)
  deriving DecidableEq, Repr

/-- The number of a level. -/
def Level.number? : Level → Option Int
  | .number value => some value
  | .name text => levelNumber? text

/-- The state of the logger that all others lie under. -/
structure State where
  /-- The number of installed handlers. -/
  handlers : Nat := 0
  /-- The least number that is logged. -/
  level : Int := 30
  deriving DecidableEq, Repr

/-- The state after a level is set, and whether the level is known. -/
def State.configure (state : State) (level : Level) : State × Bool :=
  match level.number? with
  | some number => (⟨1, number⟩, true)
  | none => (⟨1, state.level⟩, false)

end GoBindings.Logging
