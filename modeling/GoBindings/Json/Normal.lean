import GoBindings.Json.Value

/-!
# Normal forms of JSON values

Different values can stand for the same thing: a truth value counts as the number one or zero, a
decimal without a fraction is a whole number, and the members of an object have no order. All values
that stand for the same thing have one normal form, in which numbers are whole where they can be and
members are in the order of their names.
-/

namespace GoBindings.Json

mutual

/-- The normal form of a value. -/
def normal : Json → Json
  | .bool value => .integer value.toInt
  | .decimal value =>
    match value.whole? with
    | some number => .integer number
    | none => .decimal value
  | .array items => .array (normalItems items)
  | .object members => .object ((normalMembers members).mergeSort fun a b => a.1 ≤ b.1)
  | value => value

/-- The normal forms of items. -/
def normalItems : List Json → List Json
  | [] => []
  | item :: rest => normal item :: normalItems rest

/-- Members with the normal forms of their values. -/
def normalMembers : List (String × Json) → List (String × Json)
  | [] => []
  | (name, value) :: rest => (name, normal value) :: normalMembers rest

end

/-- Numerator and denominator of a number. -/
def quotient? : Json → Option (Int × Nat)
  | .integer value => some (value, 1)
  | .decimal value => value.quotient?
  | _ => none

end GoBindings.Json
