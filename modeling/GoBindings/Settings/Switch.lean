import GoBindings.Json.Value

/-!
# Switches

A switch turns a part of the generator on or off. Users may give a value of any kind for it; a blank
one turns it off and every other one turns it on. The value is kept, because it is saved as such.
-/

namespace GoBindings

/-- What turns a part of the generator on or off. -/
structure Switch where
  /-- The value that was given. -/
  given : Json
  deriving Repr

namespace Switch

/-- The switch that is a truth value. -/
def ofBool (value : Bool) : Switch := ⟨.bool value⟩

instance : Coe Bool Switch := ⟨ofBool⟩

/-- Whether the switch is on. -/
def isOn (switch : Switch) : Bool := !switch.given.isBlank

end Switch

end GoBindings
