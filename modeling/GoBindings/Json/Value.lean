import GoBindings.Decimal.Shortest

/-!
# JSON values

Whole numbers are kept apart from decimals, and the members of an object keep their order, because
both show when a value is written again.
-/

namespace GoBindings

/-- A JSON value. -/
inductive Json where
  | null
  | bool (value : Bool)
  | integer (value : Int)
  | decimal (value : Decimal)
  | string (value : String)
  | array (items : List Json)
  | object (members : List (String × Json))
  deriving Repr, Inhabited

namespace Json

mutual

/-- Whether two values are equal. -/
def beq : Json → Json → Bool
  | .null, .null => true
  | .bool a, .bool b => a == b
  | .integer a, .integer b => a == b
  | .decimal a, .decimal b => a == b
  | .string a, .string b => a == b
  | .array xs, .array ys => beqItems xs ys
  | .object xs, .object ys => beqMembers xs ys
  | _, _ => false

/-- Whether two lists of items are equal. -/
def beqItems : List Json → List Json → Bool
  | [], [] => true
  | x :: xs, y :: ys => beq x y && beqItems xs ys
  | _, _ => false

/-- Whether two lists of members are equal, order included. -/
def beqMembers : List (String × Json) → List (String × Json) → Bool
  | [], [] => true
  | (k, x) :: xs, (l, y) :: ys => k == l && beq x y && beqMembers xs ys
  | _, _ => false

end

mutual

/-- The comparison of values decides their equality. -/
theorem beq_iff : ∀ x y : Json, beq x y = true ↔ x = y
  | .null, y | .bool _, y | .integer _, y | .decimal _, y | .string _, y => by
    cases y <;> simp [beq]
  | .array xs, y => by cases y <;> simp [beq, beqItems_iff xs]
  | .object xs, y => by cases y <;> simp [beq, beqMembers_iff xs]

/-- The comparison of item lists decides their equality. -/
theorem beqItems_iff : ∀ xs ys : List Json, beqItems xs ys = true ↔ xs = ys
  | [], ys => by cases ys <;> simp [beqItems]
  | x :: xs, ys => by cases ys <;> simp [beqItems, beq_iff x, beqItems_iff xs]

/-- The comparison of member lists decides their equality. -/
theorem beqMembers_iff : ∀ xs ys : List (String × Json), beqMembers xs ys = true ↔ xs = ys
  | [], ys => by cases ys <;> simp [beqMembers]
  | (k, x) :: xs, ys => by
    rcases ys with _ | ⟨⟨l, y⟩, ys⟩ <;> simp [beqMembers, beq_iff x, beqMembers_iff xs]

end

instance : DecidableEq Json := fun x y => decidable_of_iff _ (beq_iff x y)

/-- An array of texts. -/
def ofStrings (texts : List String) : Json := .array (texts.map .string)

/-- The text of a text value. -/
def text? : Json → Option String
  | .string value => some value
  | _ => none

/-- Whether a value counts as absent: null, false, zero, or without content. -/
def isBlank : Json → Bool
  | .null => true
  | .bool value => !value
  | .integer value => value == 0
  | .decimal (.finite _ digits _) => digits == 0
  | .decimal _ => false
  | .string value => value.isEmpty
  | .array items => items.isEmpty
  | .object members => members.isEmpty

end Json

end GoBindings
