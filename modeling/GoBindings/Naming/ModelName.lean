import GoBindings.Naming.Basic
import GoBindings.Naming.Sanitize

/-!
# Model names

A model is first named in snake case, with the configured affixes around it; its type name is the
camel case of that. A name that is reserved, begins with a digit or holds nothing to name it by gets
the start `model_`.
-/

namespace GoBindings

/-- What is put before a model name that cannot stand alone. -/
def modelStart : String := "model_"

/-- The snake case model name of a text, corrected where it cannot serve as a name. -/
def snakeModelName (reserved : ReservedWords) (raw : String) : Named String :=
  let body := sanitize raw
  let camelized := camel (snake body)
  let fixed := modelStart ++ body
  if reserved.isReserved body || reserved.isReserved camelized then
    .corrected (snake fixed)
      (body ++ " (reserved word) cannot be used as model name. Renamed to " ++ fixed)
  else if camelized.isEmpty || startsWithDigit body || startsWithDigit camelized then
    .corrected (snake fixed)
      (body ++ " (model name starts with number) cannot be used as model name. Renamed to "
        ++ fixed)
  else .kept (snake body)

/-- The snake case in which affixes are compared. -/
def snakeBody (s : String) : String := snake (sanitize s)

/-- A name with a start put before it, unless it has that start. -/
def withStart (start snakeName name : String) : String :=
  if start.isEmpty || Text.startsWith (snakeBody start ++ "_") snakeName then name
  else start ++ "_" ++ name

/-- A name with an ending put after it, unless it has that ending. -/
def withEnding (ending snakeName name : String) : String :=
  if ending.isEmpty || Text.endsWith ("_" ++ snakeBody ending) snakeName then name
  else name ++ "_" ++ ending

/-- A name with the configured affixes. Both are looked for in the name as given. -/
def applyAffixes (settings : Settings) (name : String) : String :=
  let snakeName := snakeBody name
  withEnding settings.modelNameSuffix.content snakeName
    (withStart settings.modelNamePrefix.content snakeName name)

/-- Without affixes a name is left alone. -/
theorem applyAffixes_of_empty {settings : Settings}
    (noStart : settings.modelNamePrefix.content = "")
    (noEnding : settings.modelNameSuffix.content = "") (name : String) :
    applyAffixes settings name = name := by
  simp [applyAffixes, withStart, withEnding, noStart, noEnding]

namespace Naming

/-- The snake case name computed for a model. -/
def computedModelName (naming : Naming) (raw : String) : Named String :=
  snakeModelName naming.reserved (applyAffixes naming.settings raw)

/-- The snake case name of a model. -/
def snakeModelName (naming : Naming) (raw : String) : Report InvalidMapping Label :=
  overriddenBy naming.settings.modelNameMapping raw (naming.computedModelName raw).label

/-- The type name of a model. -/
def modelName (naming : Naming) (raw : String) : Report InvalidMapping Label :=
  overriddenBy naming.settings.modelNameMapping raw
    ((naming.computedModelName raw).map camel).label

/-- The type name of a model as it stands in declarations. -/
def modelTypeName (naming : Naming) (raw : String) : Report InvalidMapping String :=
  Label.text <$> naming.modelName raw

end Naming

end GoBindings
