import GoBindings.Label

/-!
# Invalid mappings

A name that cannot be mapped: an override without a value, a type without a target, a reference to
nothing. The failure keeps the name and its cause; the wording is here and nowhere else.
-/

namespace GoBindings

/-- Why a name cannot be mapped. -/
inductive MappingFault where
  /-- The override table maps the name to nothing. -/
  | emptyOverride
  /-- The type table maps the token to nothing. -/
  | emptyType
  /-- No model of that name was registered. -/
  | unregisteredModel
  /-- No naming rule exists for the category. -/
  | unsupportedCategory (category : String)
  /-- A cause that a target of its own gives. -/
  | other (reason : String)
  deriving DecidableEq, Repr

/-- The wording of a cause. -/
def MappingFault.reason : MappingFault → String
  | .emptyOverride => "override value is empty"
  | .emptyType => "type mapping is empty"
  | .unregisteredModel => "reference to a model that was never registered"
  | .unsupportedCategory category =>
    "unsupported identifier category " ++ Text.Quoted.encode category
  | .other reason => reason

/-- A name that cannot be mapped, and why. -/
structure InvalidMapping where
  /-- The name as given. -/
  rawName : Label
  /-- The cause. -/
  fault : MappingFault
  deriving Repr

/-- The wording of the cause. -/
def InvalidMapping.reason (e : InvalidMapping) : String := e.fault.reason

/-- The wording of the failure. -/
def InvalidMapping.message (e : InvalidMapping) : String :=
  "Invalid mapping for '" ++ e.rawName.text ++ "': " ++ e.reason

end GoBindings
