import GoBindings.Proofs.Types.Qualifiers

/-!
# Type trees

A declaration is put together without delimiters: stars, brackets and names stand side by side.
Which type it declares can be told all the same. A type tree says what a declaration is made of, and
a declaration is read back to the tree that it spells. The main statement: schemas have one
declaration exactly where they have one tree, so that a list of declarations without duplicates is
one of trees without duplicates.
-/

namespace GoBindings

/-! ## Trees and their spelling -/

/-- What a type is made of. -/
inductive TypeTree where
  /-- A value of any type. -/
  | any
  /-- A type with a name. -/
  | leaf (name : String)
  /-- A list, of pointers where its elements may be absent. -/
  | slice (nullable : Bool) (element : TypeTree)
  /-- A map from texts. -/
  | map (value : TypeTree)
  deriving DecidableEq, Repr

/-- A text of letters, digits, underscores and points, as names of types and packages are. -/
def IsLeafName (name : String) : Prop := ∀ c ∈ name.toList, Chars.isBodyChar c = true ∨ c = '.'

instance (name : String) : Decidable (IsLeafName name) := List.decidableBAll _ name.toList

namespace TypeTree

/-- The declaration of a type. -/
def spelling : TypeTree → String
  | any => anyDeclaration
  | leaf name => name
  | slice nullable element => "[]" ++ if nullable then "*" ++ element.spelling else element.spelling
  | map value => "map[string]" ++ value.spelling

/-- A tree with names at its leaves. -/
def HasLeafNames : TypeTree → Prop
  | any => True
  | leaf name => IsLeafName name
  | slice _ element => element.HasLeafNames
  | map value => value.HasLeafNames

/-- The tree of a declaration. -/
def read : List Char → TypeTree
  | '[' :: ']' :: '*' :: rest => slice true (read rest)
  | '[' :: ']' :: rest => slice false (read rest)
  | 'm' :: 'a' :: 'p' :: '[' :: 's' :: 't' :: 'r' :: 'i' :: 'n' :: 'g' :: ']' :: rest =>
    map (read rest)
  | s => if s = anyDeclaration.toList then any else leaf (String.ofList s)

/-- A name begins with none of the marks of lists and maps, which have an opening bracket. -/
theorem read_of_isLeafName {name : String} (isName : IsLeafName name) :
    read name.toList = leaf name := by
  have unmarked : '[' ∉ name.toList :=
    fun member => (isName '[' member).elim (by decide) (by decide)
  have other : name.toList ≠ anyDeclaration.toList := by
    intro same
    refine (isName '\x7b' ?_).elim (by decide) (by decide)
    rw [same]
    decide
  rw [read]
  · rw [if_neg other, String.ofList_toList]
  all_goals
    intro rest chars
    rw [chars] at unmarked
    simp at unmarked

/-- No declaration begins with a star. -/
theorem spelling_ne_star {tree : TypeTree} (names : tree.HasLeafNames) (rest : List Char) :
    tree.spelling.toList ≠ '*' :: rest := by
  intro star
  cases tree with
  | any => cases star
  | leaf name =>
    refine (names '*' ?_).elim (by decide) (by decide)
    have chars : name.toList = '*' :: rest := star
    rw [chars]
    exact List.mem_cons_self
  | slice nullable element =>
    rw [spelling, String.toList_append] at star
    cases star
  | map value =>
    rw [spelling, String.toList_append] at star
    cases star

/-- A declaration is read back to the tree that it spells. -/
theorem read_spelling {tree : TypeTree} (names : tree.HasLeafNames) :
    read tree.spelling.toList = tree := by
  induction tree with
  | any => decide
  | leaf name => exact read_of_isLeafName names
  | slice nullable element ih =>
    have inner := ih names
    cases nullable with
    | true =>
      have chars : (slice true element).spelling.toList =
          '[' :: ']' :: '*' :: element.spelling.toList := by
        simp [spelling]
      rw [chars, read, inner]
    | false =>
      have chars : (slice false element).spelling.toList =
          '[' :: ']' :: element.spelling.toList := by
        simp [spelling]
      rw [chars, read, inner]
      exact spelling_ne_star names
  | map value ih =>
    have inner := ih names
    have chars : (map value).spelling.toList = "map[string]".toList ++ value.spelling.toList := by
      simp [spelling]
    rw [chars]
    change map (read value.spelling.toList) = _
    rw [inner]

/-- Trees with one spelling are one tree. -/
theorem spelling_inj {first second : TypeTree} (left : first.HasLeafNames)
    (right : second.HasLeafNames) : first.spelling = second.spelling ↔ first = second := by
  refine ⟨fun same => ?_, fun same => same ▸ rfl⟩
  rw [← read_spelling left, same, read_spelling right]

/-- The tree of the declaration of a token. -/
def ofDeclaration (name : String) : TypeTree :=
  if name = freeFormDeclaration then map any
  else if name = anyDeclaration then any
  else leaf name

/-- The declarations of tokens are names but for those of free forms and of values of any type. -/
theorem isLeafName_of_mem : ∀ name ∈ builtinDeclarations,
    name ≠ freeFormDeclaration → name ≠ anyDeclaration → IsLeafName name := by decide

/-- The tree of the declaration of a token spells it. -/
theorem ofDeclaration_spelling {name : String} (member : name ∈ builtinDeclarations) :
    (ofDeclaration name).HasLeafNames ∧ (ofDeclaration name).spelling = name := by
  rw [ofDeclaration]
  split
  · rename_i freeForm
    exact ⟨trivial, freeForm.symm⟩
  · rename_i named
    split
    · rename_i anything
      exact ⟨trivial, anything.symm⟩
    · rename_i specific
      exact ⟨isLeafName_of_mem name member named specific, rfl⟩

end TypeTree

/-- Values keep their duplicates under a map that tells them apart. -/
theorem eraseDups_map_of_injOn {α β : Type} [BEq α] [LawfulBEq α] [BEq β] [LawfulBEq β] {f : α → β}
    {items : List α} (apart : ∀ a ∈ items, ∀ b ∈ items, f a = f b → a = b) :
    (items.map f).eraseDups = items.eraseDups.map f := by
  induction bound : items.length using Nat.strongRecOn generalizing items with
  | ind count ih =>
    cases items with
    | nil => rfl
    | cons a rest =>
      have kept : (rest.map f).filter (fun b => !b == f a) =
          (rest.filter fun b => !b == a).map f := by
        rw [List.filter_map]
        refine congrArg (List.map f) (List.filter_congr fun b member => ?_)
        have same : f b = f a ↔ b = a :=
          ⟨apart b (List.mem_cons_of_mem a member) a List.mem_cons_self, congrArg f⟩
        have tests : (f b == f a) = (b == a) := by
          rw [Bool.eq_iff_iff, beq_iff_eq, beq_iff_eq, same]
        rw [Function.comp_apply, tests]
      have shorter : (rest.filter fun b => !b == a).length < count := by
        have few := List.length_filter_le (fun b => !b == a) rest
        rw [List.length_cons] at bound
        omega
      have later : ((rest.filter fun b => !b == a).map f).eraseDups =
          (rest.filter fun b => !b == a).eraseDups.map f := by
        refine ih _ shorter (fun b member c there => ?_) rfl
        exact apart b (List.mem_cons_of_mem a (List.mem_filter.1 member).1) c
          (List.mem_cons_of_mem a (List.mem_filter.1 there).1)
      rw [List.map_cons, List.eraseDups_cons, kept, later, List.eraseDups_cons, List.map_cons]

/-! ## Trees of schemas -/

/-- The tree of a model is its name. -/
def Naming.modelTree (naming : Naming) (raw : String) : Except InvalidMapping TypeTree :=
  TypeTree.leaf <$> (naming.modelTypeName raw).result

/-- The tree of a primitive token: that of its declaration, or of the model that it names. -/
def Naming.tokenTree (naming : Naming) (token : String) : Except InvalidMapping TypeTree :=
  match builtinType? token with
  | some name => .ok (.ofDeclaration name)
  | none => naming.modelTree token

/-- The tree of the type of a schema. -/
def Schema.tree (naming : Naming) : Schema → Except InvalidMapping TypeTree
  | .unspecified | .any | .unknown _ => .ok .any
  | .primitive token => naming.tokenTree token
  | .array .unspecified _ => .ok (.slice false .any)
  | .array element nullable => .slice nullable <$> element.tree naming
  | .map value _ => .map <$> value.tree naming
  | .reference name => naming.modelTree name
  | .freeForm => .ok (.map .any)
  | .enum backing _ => naming.tokenTree backing
  | .composed _ _ modelName =>
    match modelName.filter (!·.isEmpty) with
    | some name => naming.modelTree name
    | none => .ok .any

/-- A declaration that a tree spells. -/
def Spells (outcome : Except InvalidMapping TypeTree) (declaration : String) : Prop :=
  ∃ tree, outcome = .ok tree ∧ tree.HasLeafNames ∧ tree.spelling = declaration

namespace TypeResolver

variable {resolver : TypeResolver} (default : resolver.IsDefault)

include default

/-- The declaration of a model is the name that its tree is. -/
theorem spells_of_modelTypeName {raw : String} {type : GoType}
    (resolved : (GoType.model <$> resolver.naming.modelTypeName raw).result = .ok type) :
    Spells (resolver.naming.modelTree raw) type.name := by
  obtain ⟨name, named, isName, rfl⟩ := exists_of_modelTypeName default resolved
  refine ⟨.leaf name, ?_, fun c member => .inl (isName.isBody c member), rfl⟩
  rw [Naming.modelTree, named]
  rfl

/-- The declaration of a primitive is spelt by the tree of its token. -/
theorem spells_of_resolvePrimitive {token : String} {type : GoType}
    (resolved : (resolver.resolvePrimitive token).result = .ok type) :
    Spells (resolver.naming.tokenTree token) type.name := by
  rw [Naming.tokenTree]
  obtain ⟨name, known, rfl⟩ | ⟨unknown, modelled⟩ := resolvePrimitive_cases default resolved
  · rw [known]
    exact ⟨.ofDeclaration name, rfl,
      TypeTree.ofDeclaration_spelling (mem_builtinDeclarations known)⟩
  · rw [unknown]
    exact spells_of_modelTypeName default modelled

/-- The declaration of a schema is spelt by its tree. -/
theorem spells_of_resolve {schema : Schema} (plain : schema.HasPlainMaps) {type : GoType}
    (resolved : (resolver.resolve schema).result = .ok type) :
    Spells (schema.tree resolver.naming) type.name := by
  induction schema using resolve.induct generalizing type with
    simp only [resolve, Schema.tree] at resolved ⊢
  | case1 | case8 | case11 =>
    cases resolved
    exact ⟨.any, rfl, trivial, rfl⟩
  | case2 token | case9 token => exact spells_of_resolvePrimitive default resolved
  | case3 =>
    cases resolved
    exact ⟨.slice false .any, rfl, trivial, rfl⟩
  | case4 element nullable specified ih =>
    obtain ⟨part, found, made⟩ := Report.result_bind_eq_ok.1 resolved
    cases made
    obtain ⟨tree, computed, names, spelt⟩ := ih plain found
    refine ⟨.slice nullable tree, by rw [computed]; rfl, names, ?_⟩
    rw [TypeTree.spelling, spelt]
    rfl
  | case5 value container ih =>
    obtain ⟨part, found, made⟩ := Report.result_bind_eq_ok.1 resolved
    cases made
    obtain ⟨tree, computed, names, spelt⟩ := ih plain.2 found
    refine ⟨.map tree, by rw [computed]; rfl, names, ?_⟩
    rw [TypeTree.spelling, spelt, plain.1]
    rfl
  | case6 name => exact spells_of_modelTypeName default (modelled_of_resolveReference resolved)
  | case7 =>
    cases resolved
    exact ⟨.map .any, rfl, trivial, rfl⟩
  | case10 kind members modelName =>
    obtain ⟨name, named, modelled⟩ | ⟨unnamed, hint, rfl⟩ := resolveComposition_cases resolved
    · rw [named]
      exact spells_of_modelTypeName default modelled
    · rw [unnamed]
      exact ⟨.any, rfl, trivial, rfl⟩

/-- The declaration of a schema is spelt by its tree. -/
theorem spells_of_declaration {schema : Schema} (plain : schema.HasPlainMaps) {declaration : String}
    (declared : (resolver.declaration schema).result = .ok declaration) :
    Spells (schema.tree resolver.naming) declaration := by
  rw [TypeResolver.declaration, Report.result_map] at declared
  cases resolved : (resolver.resolve schema).result with
  | error error => rw [resolved] at declared; cases declared
  | ok type =>
    rw [resolved] at declared
    cases declared
    exact spells_of_resolve default plain resolved

/-- The declarations of several schemas are spelt by their trees. -/
theorem spells_of_mapM {schemas : List Schema} (plain : ∀ schema ∈ schemas, schema.HasPlainMaps)
    {declarations : List String}
    (declared : (schemas.mapM resolver.declaration).result = .ok declarations) :
    ∃ trees, schemas.mapM (Schema.tree resolver.naming) = .ok trees ∧
      (∀ tree ∈ trees, tree.HasLeafNames) ∧ declarations = trees.map TypeTree.spelling := by
  induction schemas generalizing declarations with
  | nil =>
    cases declared
    exact ⟨[], rfl, fun _ member => absurd member List.not_mem_nil, rfl⟩
  | cons schema rest ih =>
    obtain ⟨here, later⟩ := List.forall_mem_cons.1 plain
    rw [List.mapM_cons, Report.result_bind_eq_ok] at declared
    obtain ⟨declaration, first, further⟩ := declared
    obtain ⟨others, second, last⟩ := Report.result_bind_eq_ok.1 further
    cases last
    obtain ⟨tree, computed, names, spelt⟩ := spells_of_declaration default here first
    obtain ⟨trees, computedRest, namesRest, rfl⟩ := ih later second
    refine ⟨tree :: trees, ?_, List.forall_mem_cons.2 ⟨names, namesRest⟩, ?_⟩
    · rw [List.mapM_cons, computed, computedRest]
      rfl
    · rw [List.map_cons, spelt]

/-- Two schemas have one declaration exactly where they have one tree. So a list of declarations of
members without duplicates spells their trees without duplicates, and no two types are merged. -/
theorem declarations_unambiguous :
    (∀ first second : Schema, first.HasPlainMaps → second.HasPlainMaps →
      ∀ left right, (resolver.declaration first).result = .ok left →
        (resolver.declaration second).result = .ok right →
        ∃ tree other, first.tree resolver.naming = .ok tree ∧
          second.tree resolver.naming = .ok other ∧ (left = right ↔ tree = other)) ∧
      ∀ members : List Schema, (∀ member ∈ members, member.HasPlainMaps) →
        ∀ declarations, (resolver.memberDeclarations members).result = .ok declarations →
          ∃ trees, (members.filter (!·.isNull)).mapM (Schema.tree resolver.naming) = .ok trees ∧
            declarations = trees.eraseDups.map TypeTree.spelling := by
  constructor
  · intro first second plain further left right declared declaredOther
    obtain ⟨tree, computed, names, rfl⟩ := spells_of_declaration default plain declared
    obtain ⟨other, computedOther, namesOther, rfl⟩ :=
      spells_of_declaration default further declaredOther
    exact ⟨tree, other, computed, computedOther, TypeTree.spelling_inj names namesOther⟩
  · intro members plain declarations declared
    rw [memberDeclarations, Report.result_bind_eq_ok] at declared
    obtain ⟨all, named, made⟩ := declared
    cases made
    obtain ⟨trees, computed, names, rfl⟩ :=
      spells_of_mapM default (fun member there => plain member (List.mem_filter.1 there).1) named
    refine ⟨trees, computed, eraseDups_map_of_injOn fun tree member other there same => ?_⟩
    exact (TypeTree.spelling_inj (names tree member) (names other there)).1 same

omit default in
/-- A free form and a map of anything have one declaration and one tree, and so have a list of
identifiers and one of enumerated texts; a list of texts that may be absent has another. -/
theorem alike_members_merged :
    let members : List Schema :=
      [.freeForm, .array (.primitive "UUID") false, .primitive "null", .map .any none,
       .array (.enum "string" ["a"]) false, .array (.primitive "string") true]
    ∃ resolver : TypeResolver, ofNaming ⟨{}, .plain⟩ = .ok resolver ∧ resolver.IsDefault ∧
      (∀ member ∈ members, member.HasPlainMaps) ∧
      (∃ tree other, Schema.freeForm.tree resolver.naming = .ok tree ∧
        (Schema.map .any none).tree resolver.naming = .ok other ∧ tree = other) ∧
      ∃ trees, (members.filter (!·.isNull)).mapM (Schema.tree resolver.naming) = .ok trees ∧
        [freeFormDeclaration, "[]string", "[]*string"] = trees.eraseDups.map TypeTree.spelling := by
  intro members
  have default : TypeResolver.IsDefault ⟨⟨{}, .plain⟩, defaultTable, []⟩ := ⟨rfl, rfl⟩
  have plain : ∀ member ∈ members, member.HasPlainMaps := by
    simp [members, Schema.HasPlainMaps]
  obtain ⟨pairs, lists⟩ := declarations_unambiguous default
  obtain ⟨tree, other, first, second, same⟩ :=
    pairs .freeForm (.map .any none) trivial ⟨rfl, trivial⟩ _ _ rfl rfl
  exact ⟨_, rfl, default, plain, ⟨tree, other, first, second, same.1 rfl⟩,
    lists members plain _ rfl⟩

end TypeResolver

end GoBindings
