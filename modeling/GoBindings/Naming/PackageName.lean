import GoBindings.GoWords
import GoBindings.Text.Case
import GoBindings.Unicode.Capital
import GoBindings.Unicode.IdentifierChar

/-!
# Package names

A package name should be a small-letter identifier without underscores that is no keyword. Each rule
that it breaks gives one remark.
-/

namespace GoBindings

/-- Whether a text is an identifier. -/
def isIdentifier : List Char → Bool
  | [] => false
  | c :: rest => Unicode.startsIdentifier c && rest.all Unicode.continuesIdentifier

/-- The remarks on a package name; none if it is a good one. -/
def packageNameRemarks (name : String) : List String :=
  match name.toList with
  | [] => ["Package name cannot be empty"]
  | first :: rest =>
    (if isIdentifier (first :: rest) then []
      else ["'" ++ name ++ "' is not a valid Go identifier"]) ++
    (if Unicode.isCapital first then ["Package names should be lowercase"] else []) ++
    (if rest.contains '_' || first == '_' then ["Package names should not contain underscores"]
      else []) ++
    (if GoWords.keywords.contains (Text.lower name) then
      ["'" ++ name ++ "' is a Go reserved word"]
      else [])

end GoBindings
