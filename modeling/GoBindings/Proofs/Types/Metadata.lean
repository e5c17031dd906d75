import GoBindings.Proofs.Types.Qualifiers

/-!
# Metadata of types

What the generator asks about a type is told beside its declaration and not read off it: each shape
of schema sets the packages, and whether accessors return the value itself and whether it can be
nil, on its own. The main statement: for every schema they are what the declaration says.
-/

namespace GoBindings

/-- A declaration of a list, of a map or of a value of any type. -/
def IsContainerDeclaration (declaration : String) : Prop :=
  Text.startsWith "[]" declaration = true ∨ Text.startsWith "map[string]" declaration = true ∨
    declaration = anyDeclaration

instance (declaration : String) : Decidable (IsContainerDeclaration declaration) :=
  inferInstanceAs (Decidable (_ ∨ _ ∨ _))

/-- A type of which the declaration says whether accessors return the value itself and whether it
can be nil. -/
structure GoType.FitsDeclaration (type : GoType) : Prop where
  /-- Containers and values of any type are returned themselves, and nothing else is. -/
  containerLike : type.isContainerLike = true ↔ IsContainerDeclaration type.name
  /-- These can be nil, and so can nil. -/
  nilable : type.isNilable = true ↔
    IsContainerDeclaration type.name ∨ type.name = nilDeclaration

instance (type : GoType) : Decidable type.FitsDeclaration :=
  decidable_of_iff
    ((type.isContainerLike = true ↔ IsContainerDeclaration type.name) ∧
      (type.isNilable = true ↔ IsContainerDeclaration type.name ∨ type.name = nilDeclaration))
    ⟨fun fits => ⟨fits.1, fits.2⟩, fun fits => ⟨fits.containerLike, fits.nilable⟩⟩

namespace GoType

/-- Containers that can be nil fit the declaration of one. -/
theorem fitsDeclaration_of_container {type : GoType} (container : type.isContainer = true)
    (nilable : type.isNilable = true) (declared : IsContainerDeclaration type.name) :
    type.FitsDeclaration := by
  have direct : type.isContainerLike = true := by
    rw [isContainerLike, container, Bool.true_or, Bool.true_or]
  exact ⟨⟨fun _ => declared, fun _ => direct⟩, ⟨fun _ => .inl declared, fun _ => nilable⟩⟩

/-- A slice fits its declaration, whatever its elements. -/
theorem fitsDeclaration_slice (element : GoType) (declaration : String) :
    (slice element declaration).FitsDeclaration := by
  refine fitsDeclaration_of_container rfl rfl (.inl ?_)
  change Text.startsWith "[]" ("[]" ++ declaration) = true
  rw [Text.startsWith_iff, String.toList_append]
  exact List.prefix_append _ _

/-- A map fits its declaration, whatever its values. -/
theorem fitsDeclaration_mapOf (value : GoType) : (mapOf "map" value).FitsDeclaration := by
  refine fitsDeclaration_of_container rfl rfl (.inr (.inl ?_))
  change Text.startsWith "map[string]" ("map" ++ "[string]" ++ value.name) = true
  rw [Text.startsWith_iff, String.toList_append]
  exact List.prefix_append _ _

/-- A model fits its name, which begins with a capital as no declaration of a container does. -/
theorem fitsDeclaration_model {name : String} (isName : IsTypeName name) :
    (model name).FitsDeclaration := by
  obtain ⟨c, rest, chars, capital, -⟩ := isName.eq_cons
  have other {small : Char} (low : small.isUpper = false) : small ≠ c := by
    rintro rfl
    exact Bool.noConfusion (low.symm.trans capital)
  have undeclared : ¬ IsContainerDeclaration name := by
    rintro (list | map | any)
    · rw [Text.startsWith_iff, chars] at list
      exact other rfl (List.cons_prefix_cons.1 list).1
    · rw [Text.startsWith_iff, chars] at map
      exact other rfl (List.cons_prefix_cons.1 map).1
    · rw [any] at chars
      exact other rfl (List.cons.inj chars).1
  have notNil : name ≠ nilDeclaration := by
    rintro rfl
    exact other rfl (List.cons.inj chars).1
  have neither : ¬ (IsContainerDeclaration name ∨ name = nilDeclaration) :=
    not_or.2 ⟨undeclared, notNil⟩
  exact ⟨iff_of_false Bool.false_ne_true undeclared, iff_of_false Bool.false_ne_true neither⟩

/-- The declarations of tokens are fitted by their types. -/
theorem fitsDeclaration_ofDeclaration : ∀ name ∈ builtinDeclarations,
    (ofDeclaration name).FitsDeclaration := by decide

/-- A value of any type fits its declaration, whatever is told about how it was found. -/
theorem fitsDeclaration_any_withHint (hint : String) : (any.withHint hint).FitsDeclaration := by
  have fits : any.FitsDeclaration := by decide
  exact ⟨fits.containerLike, fits.nilable⟩

end GoType

namespace TypeResolver

variable {resolver : TypeResolver} (default : resolver.IsDefault)

include default

/-- The type of a model fits its declaration. -/
theorem fitsDeclaration_of_modelTypeName {raw : String} {type : GoType}
    (resolved : (GoType.model <$> resolver.naming.modelTypeName raw).result = .ok type) :
    type.FitsDeclaration := by
  obtain ⟨name, -, isName, rfl⟩ := exists_of_modelTypeName default resolved
  exact GoType.fitsDeclaration_model isName

/-- The type of a primitive fits its declaration. -/
theorem fitsDeclaration_of_resolvePrimitive {token : String} {type : GoType}
    (resolved : (resolver.resolvePrimitive token).result = .ok type) : type.FitsDeclaration := by
  obtain ⟨name, known, rfl⟩ | ⟨-, modelled⟩ := resolvePrimitive_cases default resolved
  · exact GoType.fitsDeclaration_ofDeclaration name (mem_builtinDeclarations known)
  · exact fitsDeclaration_of_modelTypeName default modelled

/-- The type of a schema fits its declaration. -/
theorem fitsDeclaration_of_resolve {schema : Schema} (plain : schema.HasPlainMaps) {type : GoType}
    (resolved : (resolver.resolve schema).result = .ok type) : type.FitsDeclaration := by
  cases schema using resolve.fun_cases with
    simp only [resolve] at resolved
  | case1 | case7 | case8 =>
    cases resolved
    decide
  | case2 token | case9 token => exact fitsDeclaration_of_resolvePrimitive default resolved
  | case3 =>
    cases resolved
    exact GoType.fitsDeclaration_slice _ _
  | case4 element nullable specified =>
    obtain ⟨part, -, made⟩ := Report.result_bind_eq_ok.1 resolved
    cases made
    exact GoType.fitsDeclaration_slice _ _
  | case5 value container =>
    obtain ⟨part, -, made⟩ := Report.result_bind_eq_ok.1 resolved
    cases made
    rw [plain.1]
    exact GoType.fitsDeclaration_mapOf part
  | case6 name =>
    exact fitsDeclaration_of_modelTypeName default (modelled_of_resolveReference resolved)
  | case10 kind members modelName =>
    obtain ⟨name, -, modelled⟩ | ⟨-, hint, rfl⟩ := resolveComposition_cases resolved
    · exact fitsDeclaration_of_modelTypeName default modelled
    · exact GoType.fitsDeclaration_any_withHint hint
  | case11 =>
    cases resolved
    exact GoType.fitsDeclaration_any_withHint _

/-- The packages that a resolved type asks for are those that its declaration names, accessors
return its value itself where the declaration is that of a list, of a map or of a value of any type,
and it can be nil just there and where the declaration is `nil`. -/
theorem metadata_of_resolve {schema : Schema} (plain : schema.HasPlainMaps) {type : GoType}
    (resolved : (resolver.resolve schema).result = .ok type) :
    (∀ package, package ∈ type.imports ↔ package ∈ qualifiers type.name) ∧
      (type.isContainerLike = true ↔ IsContainerDeclaration type.name) ∧
      (type.isNilable = true ↔ IsContainerDeclaration type.name ∨ type.name = nilDeclaration) := by
  obtain ⟨imports, names⟩ := uses_of_resolve default plain resolved
  have fits := fitsDeclaration_of_resolve default plain resolved
  refine ⟨fun package => ?_, fits.containerLike, fits.nilable⟩
  rw [imports, names]

omit default in
/-- A map of lists of times that may be absent names the package `time` and asks for it, and it is a
container that can be nil. -/
theorem nested_times_metadata :
    ∃ (resolver : TypeResolver) (type : GoType),
      ofNaming ⟨{}, .plain⟩ = .ok resolver ∧ resolver.IsDefault ∧
        (resolver.resolve (.map (.array (.primitive "date-time") true) none)).result = .ok type ∧
        type.name = "map[string][]*time.Time" ∧ "time" ∈ type.imports ∧
        type.isContainerLike = true ∧ type.isNilable = true := by
  have default : TypeResolver.IsDefault ⟨⟨{}, .plain⟩, defaultTable, []⟩ := ⟨rfl, rfl⟩
  have plain : Schema.HasPlainMaps (.map (.array (.primitive "date-time") true) none) :=
    ⟨rfl, trivial⟩
  obtain ⟨packages, direct, nilable⟩ := metadata_of_resolve default plain rfl
  have container : IsContainerDeclaration "map[string][]*time.Time" := by decide
  have named : "time" ∈ qualifiers "map[string][]*time.Time" := by decide
  exact ⟨_, _, rfl, default, rfl, rfl, (packages "time").2 named, direct.2 container,
    nilable.2 (.inl container)⟩

end TypeResolver

end GoBindings
