import GoBindings.Label
import GoBindings.Naming.CaseStyle
import GoBindings.Table

/-!
# Reserved words

Some words cannot serve as names. They are held in small letters and matched whatever the case of
the name. A reserved name is escaped by a replacement of its own or else by a suffix; the suffix is
checked against every word when the table is built, so an escaped name is free again.
-/

namespace GoBindings

/-- Why a table of reserved words is refused. -/
inductive ReservedWordsError where
  /-- An escaped name would equal the name. -/
  | emptySuffix
  /-- Some words begin or end with the suffix, so an escaped name could be one of them. -/
  | clash (suffix : String) (words : List String)
  /-- A name is to be replaced by nothing. -/
  | emptyReplacement (name : Label)
  deriving Repr

/-- The words that cannot serve as names, and how such a name is escaped. -/
structure ReservedWords where
  /-- The words in small letters, each once. -/
  words : List String
  /-- Names with a replacement of their own; these are reserved too, as spelt. -/
  replacements : Table Label Label
  /-- What is appended to a reserved name without a replacement. -/
  suffix : String

namespace ReservedWords

/-- The words that begin or end with a suffix. -/
def clashing (suffix : String) (words : List String) : List String :=
  words.filter fun word => Text.startsWith suffix word || Text.endsWith suffix word

/-- The table of some words, or the reason why it is refused. -/
def build (words : List String) (replacements : Table Label Label := Table.empty)
    (suffix : String := "_") : Except ReservedWordsError ReservedWords :=
  let lowered := (words.map Text.lower).eraseDups
  let clashes := clashing suffix lowered
  if suffix.isEmpty then .error .emptySuffix
  else if !clashes.isEmpty then .error (.clash suffix (clashes.mergeSort))
  else
    match replacements.entries.find? (·.2.isBlank) with
    | some (name, _) => .error (.emptyReplacement name)
    | none => .ok ⟨lowered, replacements, suffix⟩

/-- The number of words. -/
def size (reserved : ReservedWords) : Nat := reserved.words.length

/-- Whether a name cannot be used. The empty name is not reserved. -/
def isReserved (reserved : ReservedWords) (name : String) : Bool :=
  !name.isEmpty &&
    (reserved.words.contains (Text.lower name) || reserved.replacements.contains (.ofText name))

/-- Whether a name that may be absent cannot be used. No name is not reserved. -/
def isReservedOptional (reserved : ReservedWords) (name : Option String) : Bool :=
  name.any reserved.isReserved

/-- The escaped form of a name: its replacement, or its camel case with the suffix. -/
def escape (reserved : ReservedWords) (name : String) : Label :=
  (reserved.replacements.find? (.ofText name)).getD (.ofText (camel name ++ reserved.suffix))

end ReservedWords

end GoBindings
