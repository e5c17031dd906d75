import GoBindings.Naming.InvalidMapping
import GoBindings.Table

/-!
# Overrides

A table of names chosen by the user, which is asked before any naming rule. A blank entry is a
mistake and is reported where it is met; any other is handed on as it was given.
-/

namespace GoBindings

/-- The override of a name, if the table has one. -/
def lookupOverride (table : Table Label Label) (key : Label) :
    Except InvalidMapping (Option Label) :=
  match table.find? key with
  | none => .ok none
  | some value => if value.isBlank then .error ⟨key, .emptyOverride⟩ else .ok (some value)

/-- The override of a name that may be absent; no name has no override. -/
def lookupOptional (table : Table Label Label) : Option Label →
    Except InvalidMapping (Option Label)
  | some key => lookupOverride table key
  | none => .ok none

end GoBindings
