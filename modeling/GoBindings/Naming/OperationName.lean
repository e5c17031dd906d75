import GoBindings.Naming.Basic
import GoBindings.Naming.Sanitize

/-!
# Operation names

The method of an operation is named in camel case; a name that is reserved, begins with a digit or
holds nothing to name it by gets the start `call_`.
-/

namespace GoBindings

/-- What is put before an operation name that cannot stand alone. -/
def operationStart : String := "call_"

/-- The method name of an operation. -/
def operationName (reserved : ReservedWords) (raw : String) : Named String :=
  let body := sanitize raw
  let camelized := camel body
  let fixed := camel (operationStart ++ body)
  if reserved.isReserved body || reserved.isReserved camelized then
    .corrected fixed
      (raw ++ " (reserved word) cannot be used as method name. Renamed to " ++ fixed)
  else if camelized.isEmpty || startsWithDigit camelized then
    .corrected fixed
      (raw ++ " (starting with a number) cannot be used as method name. Renamed to " ++ fixed)
  else .kept camelized

/-- The method name of an operation. -/
def Naming.operationName (naming : Naming) (raw : String) : Named String :=
  GoBindings.operationName naming.reserved raw

end GoBindings
