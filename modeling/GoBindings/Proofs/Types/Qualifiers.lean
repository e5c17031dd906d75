import GoBindings.Proofs.Naming.Overrides
import GoBindings.Proofs.Naming.Spelling
import GoBindings.TypeResolver

/-!
# Qualifiers of types

A type declaration uses a package where it names it before a point. Which packages the type of a
schema uses can be told from the schema alone: they are those of the primitive that its lists and
maps end in. The main statement says that the declaration of a resolved type uses just the packages
that the type asks for, and that these are the packages of its schema.
-/

namespace GoBindings

/-! ## Declarations -/

/-- The words before the points of a text that continues a word, which is given last character
first. -/
def qualifiersFrom (word : List Char) : List Char → List String
  | [] => []
  | c :: rest =>
    if c = '.' then String.ofList word.reverse :: qualifiersFrom [] rest
    else qualifiersFrom (if Chars.isBodyChar c then c :: word else []) rest

/-- The packages that a declaration names, each before a point. -/
def qualifiers (declaration : String) : List String := qualifiersFrom [] declaration.toList

/-- Without a point nothing is qualified. -/
theorem qualifiersFrom_of_not_mem {word s : List Char} (clean : '.' ∉ s) :
    qualifiersFrom word s = [] := by
  induction s generalizing word with
  | nil => rfl
  | cons c rest ih =>
    obtain ⟨other, later⟩ := not_or.1 (mt List.mem_cons.2 clean)
    rw [qualifiersFrom, if_neg (Ne.symm other), ih later]

/-- A start without points that ends outside a word qualifies nothing. -/
theorem qualifiersFrom_append (start : List Char) (separator : Char) (clean : '.' ∉ start)
    (notBody : Chars.isBodyChar separator = false) (notPoint : separator ≠ '.')
    (word s : List Char) :
    qualifiersFrom word (start ++ separator :: s) = qualifiersFrom [] s := by
  induction start generalizing word with
  | nil => rw [List.nil_append, qualifiersFrom, if_neg notPoint, notBody]; rfl
  | cons c rest ih =>
    obtain ⟨other, later⟩ := not_or.1 (mt List.mem_cons.2 clean)
    rw [List.cons_append, qualifiersFrom, if_neg (Ne.symm other), ih later]

/-- A text of letters and digits qualifies nothing. -/
theorem qualifiers_of_isTypeName {name : String} (type : IsTypeName name) :
    qualifiers name = [] := by
  obtain ⟨c, rest, chars, capital, further⟩ := type.eq_cons
  refine qualifiersFrom_of_not_mem fun member => ?_
  rw [chars] at member
  rcases List.mem_cons.1 member with rfl | later
  · exact Bool.noConfusion capital
  · exact Bool.noConfusion (further _ later)

/-- A slice uses the packages of its elements. -/
theorem qualifiers_slice (declaration : String) :
    qualifiers ("[]" ++ declaration) = qualifiers declaration := by
  rw [qualifiers, String.toList_append]
  exact qualifiersFrom_append ['['] ']' (by decide) rfl (by decide) [] _

/-- A pointer uses the packages of what it points to. -/
theorem qualifiers_pointer (declaration : String) :
    qualifiers ("*" ++ declaration) = qualifiers declaration := by
  rw [qualifiers, String.toList_append]
  exact qualifiersFrom_append [] '*' (by decide) rfl (by decide) [] _

/-- A map uses the packages of its values. -/
theorem qualifiers_map (declaration : String) :
    qualifiers ("map" ++ "[string]" ++ declaration) = qualifiers declaration := by
  rw [qualifiers, String.toList_append]
  exact qualifiersFrom_append "map[string".toList ']' (by decide) rfl (by decide) [] _

/-! ## Schemas -/

/-- The tokens whose type is the time of the package `time`. -/
def timeTokens : List String := ["date", "date-time", "DateTime", "time.Time"]

/-- The tokens whose type is the reader of the package `io`. -/
def readerTokens : List String := ["File", "file", "binary", "io.ReadCloser"]

/-- The packages that the type of a primitive token uses. -/
def tokenPackages (token : String) : List String :=
  if token ∈ timeTokens then ["time"] else if token ∈ readerTokens then ["io"] else []

/-- The packages that the type of a schema uses. -/
def Schema.packages : Schema → List String
  | .primitive token => tokenPackages token
  | .array element _ => element.packages
  | .map value _ => value.packages
  | .enum backing _ => tokenPackages backing
  | _ => []

/-- A schema whose maps are of the type that maps have. -/
def Schema.HasPlainMaps : Schema → Prop
  | .array element _ => element.HasPlainMaps
  | .map value container => container.filter (!·.isEmpty) = none ∧ value.HasPlainMaps
  | _ => True

/-- Only two packages are ever used by types. -/
theorem mem_tokenPackages {token package : String} (member : package ∈ tokenPackages token) :
    package = "time" ∨ package = "io" := by
  rw [tokenPackages] at member
  split at member
  · exact .inl (List.mem_singleton.1 member)
  · split at member
    · exact .inr (List.mem_singleton.1 member)
    · exact absurd member List.not_mem_nil

/-- A schema needs no packages but `time` and `io`. -/
theorem Schema.mem_packages {schema : Schema} {package : String}
    (member : package ∈ schema.packages) : package = "time" ∨ package = "io" := by
  induction schema using packages.induct with
  | case1 | case4 => exact mem_tokenPackages member
  | case2 _ _ ih | case3 _ _ ih => exact ih member
  | case5 =>
    rw [packages] at member
    · exact absurd member List.not_mem_nil
    all_goals assumption

/-! ## Primitives -/

/-- A type whose declaration uses just the packages that it asks for. -/
def GoType.Uses (type : GoType) (packages : List String) : Prop :=
  type.imports = packages ∧ qualifiers type.name = packages

instance (type : GoType) (packages : List String) : Decidable (type.Uses packages) :=
  inferInstanceAs (Decidable (_ ∧ _))

/-- The type of a value of any type uses no packages. -/
theorem uses_any : GoType.any.Uses [] := by decide

/-- The types of the tokens use their packages. -/
theorem uses_defaultTypes : ∀ entry ∈ defaultTypes,
    (GoType.ofDeclaration entry.2).Uses (tokenPackages entry.1) := by decide

/-- The declarations that tokens have by default: those of the table and the primitives. -/
def builtinDeclarations : List String := defaultTypes.map Prod.snd ++ languagePrimitives

/-- The declaration that a token has by default: that of the table, or the token itself where it is
a declaration already. -/
def builtinType? (token : String) : Option String :=
  match defaultTypes.lookup token with
  | some name => some name
  | none => if token ∈ builtinDeclarations then some token else none

/-- The declaration of a token is one of those. -/
theorem mem_builtinDeclarations {token name : String} (known : builtinType? token = some name) :
    name ∈ builtinDeclarations := by
  rw [builtinType?] at known
  split at known
  · rename_i found
    cases known
    exact List.mem_append_left _ (List.mem_map.2 ⟨_, mem_of_lookup found, rfl⟩)
  · split at known
    · rename_i listed
      cases known
      exact listed
    · cases known

/-- The declarations that are tokens themselves use their packages. -/
theorem uses_declarations : ∀ name ∈ builtinDeclarations,
    (GoType.ofDeclaration name).Uses (tokenPackages name) := by decide

/-- The declaration of a token uses the packages of the token. -/
theorem uses_builtinType {token name : String} (known : builtinType? token = some name) :
    (GoType.ofDeclaration name).Uses (tokenPackages token) := by
  rw [builtinType?] at known
  split at known
  · rename_i found
    cases known
    exact uses_defaultTypes _ (mem_of_lookup found)
  · split at known
    · rename_i listed
      cases known
      exact uses_declarations token listed
    · cases known

/-- A token that uses a package has a type or is the declaration of one. -/
theorem mem_of_tokenPackages : ∀ token ∈ timeTokens ++ readerTokens,
    token ∈ defaultTypes.map Prod.fst ∨ token ∈ defaultTypes.map Prod.snd := by decide

/-- The table of types that settings without overrides of types make. -/
def defaultTable : Table Label Label :=
  Table.ofList (defaultTypes.map fun (token, type) => (Label.ofText token, Label.ofText type))

/-- The default table holds the default types in their order. -/
theorem entries_defaultTable : defaultTable.entries =
    defaultTypes.map fun (token, type) => (Label.ofText token, Label.ofText type) := rfl

/-- An entry of texts is found by its text. -/
theorem findEntry_ofText (pairs : List (String × String)) (token : String) :
    findEntry (Label.ofText token)
        (pairs.map fun (token, type) => (Label.ofText token, Label.ofText type)) =
      (pairs.lookup token).map Label.ofText := by
  induction pairs with
  | nil => rfl
  | cons pair rest ih =>
    obtain ⟨other, type⟩ := pair
    rw [List.map_cons, findEntry, Label.ofText_beq_ofText, ih, List.lookup_cons]
    by_cases same : other = token
    · rw [same, beq_self_eq_true]
      rfl
    · rw [beq_eq_false_iff_ne.2 same, beq_eq_false_iff_ne.2 (Ne.symm same)]
      rfl

/-- The name of a model can be a type wherever no names of models are overridden. -/
theorem isTypeName_of_modelTypeName {naming : Naming}
    (noModels : naming.settings.modelNameMapping = Table.empty) {raw name : String}
    (named : (naming.modelTypeName raw).result = .ok name) : IsTypeName name := by
  rw [Naming.modelTypeName, Naming.modelName, noModels, Naming.overriddenBy_empty,
    Report.result_map, Named.result_label] at named
  have same : camel (naming.computedModelName raw).name = name := Except.ok.inj named
  rw [← same]
  exact isTypeName_snakeModelName naming.reserved _

/-- Texts among texts are the same as labels. -/
theorem contains_map_ofText (texts : List String) (text : String) :
    (texts.map Label.ofText).contains (.ofText text) = texts.contains text := by
  induction texts with
  | nil => rfl
  | cons other rest ih =>
    rw [List.map_cons, List.contains_cons, List.contains_cons, Label.ofText_beq_ofText, ih]

/-- A token without a declaration uses no packages. -/
theorem tokenPackages_of_unknown {token : String} (unknown : builtinType? token = none) :
    tokenPackages token = [] := by
  rw [builtinType?] at unknown
  split at unknown
  · cases unknown
  · rename_i missing
    split at unknown
    · cases unknown
    · rename_i unlisted
      have noType : token ∉ defaultTypes.map Prod.fst := by
        intro member
        obtain ⟨entry, there, same⟩ := List.mem_map.1 member
        have different := List.lookup_eq_none_iff.1 missing entry there
        exact bne_iff_ne.1 different same.symm
      have apart : token ∉ timeTokens ++ readerTokens := fun member =>
        (mem_of_tokenPackages token member).elim noType fun declared =>
          unlisted (List.mem_append_left _ declared)
      rw [List.mem_append, not_or] at apart
      rw [tokenPackages, if_neg apart.1, if_neg apart.2]

namespace TypeResolver

/-- A resolver that takes nothing from its settings but the affixes of models. -/
structure IsDefault (resolver : TypeResolver) : Prop where
  /-- The types of tokens are the default ones. -/
  types : resolver.types = defaultTable
  /-- No names of models are overridden. -/
  models : resolver.naming.settings.modelNameMapping = Table.empty

variable {resolver : TypeResolver} (default : resolver.IsDefault)

include default

/-- The declarations of tokens are the default ones. -/
theorem declaration?_eq (token : String) : resolver.declaration? token = builtinType? token := by
  have found : resolver.types.find? (.ofText token) = (defaultTypes.lookup token).map .ofText := by
    rw [default.types, Table.find?, entries_defaultTable, findEntry_ofText]
  have values : resolver.types.values.contains (.ofText token) =
      (defaultTypes.map Prod.snd).contains token := by
    rw [default.types, ← contains_map_ofText]
    rfl
  rw [declaration?, found, values, builtinType?]
  cases defaultTypes.lookup token with
  | some name => rfl
  | none =>
    have listed : ((defaultTypes.map Prod.snd).contains token ||
        languagePrimitives.contains token) = true ↔ token ∈ builtinDeclarations := by
      rw [← List.contains_append, List.contains_iff_mem]
      rfl
    exact ite_congr (propext listed) (fun _ => rfl) fun _ => rfl

/-- The type of a model is named by a type name. -/
theorem exists_of_modelTypeName {raw : String} {type : GoType}
    (resolved : (GoType.model <$> resolver.naming.modelTypeName raw).result = .ok type) :
    ∃ name, (resolver.naming.modelTypeName raw).result = .ok name ∧ IsTypeName name ∧
      type = .model name := by
  rw [Report.result_map] at resolved
  cases named : (resolver.naming.modelTypeName raw).result with
  | error error => rw [named] at resolved; cases resolved
  | ok name =>
    rw [named] at resolved
    cases resolved
    exact ⟨name, rfl, isTypeName_of_modelTypeName default.models named, rfl⟩

/-- A primitive has the declaration of its token, or else it is a model. -/
theorem resolvePrimitive_cases {token : String} {type : GoType}
    (resolved : (resolver.resolvePrimitive token).result = .ok type) :
    (∃ name, builtinType? token = some name ∧ type = .ofDeclaration name) ∨
      builtinType? token = none ∧
        (GoType.model <$> resolver.naming.modelTypeName token).result = .ok type := by
  rw [resolvePrimitive, declaration?_eq default] at resolved
  cases known : builtinType? token with
  | some name =>
    rw [known] at resolved
    exact .inl ⟨name, rfl, (Except.ok.inj resolved).symm⟩
  | none =>
    rw [known] at resolved
    exact .inr ⟨rfl, resolved⟩

omit default in
/-- The type of a reference is that of the model. -/
theorem modelled_of_resolveReference {name : String} {type : GoType}
    (resolved : (resolver.resolveReference name).result = .ok type) :
    (GoType.model <$> resolver.naming.modelTypeName name).result = .ok type := by
  rw [resolveReference] at resolved
  split at resolved
  · exact resolved
  · cases resolved

omit default in
/-- A composition is the model that it names, or else a value of any type. -/
theorem resolveComposition_cases {kind : CompositionKind} {modelName : Option String}
    {type : GoType} (resolved : (resolver.resolveComposition kind modelName).result = .ok type) :
    (∃ name, modelName.filter (!·.isEmpty) = some name ∧
        (GoType.model <$> resolver.naming.modelTypeName name).result = .ok type) ∨
      modelName.filter (!·.isEmpty) = none ∧ ∃ hint, type = GoType.any.withHint hint := by
  rw [resolveComposition] at resolved
  cases named : modelName.filter (!·.isEmpty) with
  | some name =>
    rw [named] at resolved
    exact .inl ⟨name, rfl, resolved⟩
  | none =>
    rw [named] at resolved
    exact .inr ⟨rfl, _, (Except.ok.inj resolved).symm⟩

/-- The type of a model uses no packages. -/
theorem uses_of_modelTypeName {raw : String} {type : GoType}
    (resolved : (GoType.model <$> resolver.naming.modelTypeName raw).result = .ok type) :
    type.Uses [] := by
  obtain ⟨name, -, isName, rfl⟩ := exists_of_modelTypeName default resolved
  exact ⟨rfl, qualifiers_of_isTypeName isName⟩

/-- The type of a primitive uses the packages of its token. -/
theorem uses_of_resolvePrimitive {token : String} {type : GoType}
    (resolved : (resolver.resolvePrimitive token).result = .ok type) :
    type.Uses (tokenPackages token) := by
  obtain ⟨name, known, rfl⟩ | ⟨unknown, modelled⟩ := resolvePrimitive_cases default resolved
  · exact uses_builtinType known
  · rw [tokenPackages_of_unknown unknown]
    exact uses_of_modelTypeName default modelled

/-- The declaration of a resolved type uses the packages that the type asks for, and these are the
packages of the schema. An unspecified shape, a list of one, a free form and anything have fixed
declarations. -/
theorem uses_of_resolve {schema : Schema} (plain : schema.HasPlainMaps) {type : GoType}
    (resolved : (resolver.resolve schema).result = .ok type) : type.Uses schema.packages := by
  induction schema using resolve.induct generalizing type with
    simp only [resolve, Schema.packages] at resolved ⊢
  | case1 | case3 | case7 | case8 =>
    cases resolved
    decide
  | case2 token | case9 token => exact uses_of_resolvePrimitive default resolved
  | case4 element nullable specified ih =>
    obtain ⟨part, found, made⟩ := Report.result_bind_eq_ok.1 resolved
    cases made
    obtain ⟨imports, names⟩ := ih plain found
    refine ⟨imports, ?_⟩
    change qualifiers ("[]" ++ _) = _
    rw [qualifiers_slice]
    split
    · rw [qualifiers_pointer, names]
    · exact names
  | case5 value container ih =>
    obtain ⟨part, found, made⟩ := Report.result_bind_eq_ok.1 resolved
    cases made
    obtain ⟨imports, names⟩ := ih plain.2 found
    refine ⟨imports, ?_⟩
    rw [plain.1]
    change qualifiers ("map" ++ "[string]" ++ part.name) = _
    rw [qualifiers_map, names]
  | case6 name => exact uses_of_modelTypeName default (modelled_of_resolveReference resolved)
  | case10 kind members modelName =>
    obtain ⟨name, -, modelled⟩ | ⟨-, hint, rfl⟩ := resolveComposition_cases resolved
    · exact uses_of_modelTypeName default modelled
    · exact uses_any
  | case11 =>
    cases resolved
    exact uses_any

end TypeResolver

end GoBindings
