import GoBindings.Proofs.Imports

/-!
# What files import

What the code of a file needs is told here without an order: the paths that came along and are not
of its own package, the packages of the types that stand in it, and those that its code calls. A
needed path is then replaced where there is an entry for it. The main statement says that the
imports of interface files and of model files are just these, each once, so that which paths they
are does not depend on the order of the operations or types.
-/

namespace GoBindings

/-! ## Replacements -/

namespace ImportSet

/-- Whether a path comes in the place of another under a table of replacements: it is one of the
replacements of the other, or it is the other and there is no entry for that. -/
def Replaces (table : Table Label (List Label)) (source path : Label) : Prop :=
  (∃ replacements, table.find? source = some replacements ∧
    ∃ replacement ∈ replacements, path == replacement) ∨
  (table.find? source = none ∧ path == source)

variable {table : Table Label (List Label)} {path : Label}

/-- A path replaces a source where it is one of its replacements. -/
theorem replaces_iff (source : Label) :
    Replaces table source path ↔ ∃ other ∈ replacementsOf table source, path == other := by
  rw [Replaces, replacementsOf]
  cases table.find? source with
  | none => simp
  | some replacements => simp

/-- What comes in the place of two paths that are the same is the same. -/
theorem replaces_congr {source other : Label} (same : source == other) :
    Replaces table source path ↔ Replaces table other path := by
  have entry : table.find? source = table.find? other := findEntry_congr same table.entries
  have agree : (path == source) = (path == other) := BEq.congr_right same
  rw [Replaces, Replaces, entry, agree]

/-- After the replacement the paths are those that come in the place of one that was there. -/
theorem contains_expanded (imports : ImportSet) :
    (imports.expanded table).contains path = true ↔
      ∃ source, imports.contains source = true ∧ Replaces table source path := by
  rw [expanded, contains_ofList]
  constructor
  · rintro ⟨added, member, same⟩
    obtain ⟨source, there, replacement⟩ := List.mem_flatMap.1 member
    refine ⟨source, List.contains_iff_exists_mem_beq.2 ⟨source, there, BEq.rfl⟩, ?_⟩
    exact (replaces_iff source).2 ⟨added, replacement, same⟩
  · rintro ⟨source, there, replaces⟩
    obtain ⟨kept, member, same⟩ := List.contains_iff_exists_mem_beq.1 there
    obtain ⟨added, replacement, agree⟩ :=
      (replaces_iff kept).1 ((replaces_congr same).1 replaces)
    exact ⟨added, List.mem_flatMap.2 ⟨kept, member, replacement⟩, agree⟩

/-- A set that holds each path once, and just the paths that come in the place of a needed one. -/
structure IsExact (imports : ImportSet) (Needs : Label → Prop) (table : Table Label (List Label)) :
    Prop where
  /-- No two paths are the same. -/
  distinct : imports.paths.Pairwise fun a b => (a == b) = false
  /-- Nothing that is needed is lost, and nothing else is there. -/
  contains_iff : ∀ path, imports.contains path = true ↔
    ∃ source, Needs source ∧ Replaces table source path

/-- A set of what is needed becomes exact by the replacement. -/
theorem isExact_expanded {imports : ImportSet} {Needs : Label → Prop}
    (needed : ∀ path, imports.contains path = true ↔ ∃ source, Needs source ∧ path == source) :
    (imports.expanded table).IsExact Needs table := by
  refine ⟨(imports.expanded table).distinct, fun path => ?_⟩
  rw [contains_expanded]
  constructor
  · rintro ⟨there, member, replaces⟩
    obtain ⟨source, needs, same⟩ := (needed there).1 member
    exact ⟨source, needs, (replaces_congr same).1 replaces⟩
  · rintro ⟨source, needs, replaces⟩
    exact ⟨source, (needed source).2 ⟨source, needs, BEq.rfl⟩, replaces⟩

/-- Sets that are exact for the same needs hold the same paths. -/
theorem IsExact.contains_eq {imports others : ImportSet} {Needs Wants : Label → Prop}
    (first : imports.IsExact Needs table) (second : others.IsExact Wants table)
    (same : ∀ source, Needs source ↔ Wants source) (path : Label) :
    imports.contains path = others.contains path := by
  rw [Bool.eq_iff_iff, first.contains_iff, second.contains_iff]
  simp only [same]

end ImportSet

/-! ## Interface files -/

/-- What the code of one operation needs. -/
inductive TypedOperation.Needs (typed : TypedOperation) : Label → Prop where
  /-- The packages of the type of the answer. -/
  | answer {type : GoType} {package : String} (answers : typed.returnType = some type)
      (asked : package ∈ type.imports) : Needs typed package
  /-- The packages of the type of a parameter. -/
  | parameter {type : GoType} {package : String} (takes : type ∈ typed.parameterTypes)
      (asked : package ∈ type.imports) : Needs typed package
  /-- The package that walks over the values of a parameter that is given once for each. -/
  | repeated {parameter : Parameter} (member : parameter ∈ typed.operation.parameters)
      (multi : parameter.collectionFormat = some multiFormat) : Needs typed reflectImport

/-- What the code of an interface file needs. -/
inductive OperationNeeds (operations : List TypedOperation) (existing : List Label)
    (apiPackage : String) : Label → Prop where
  /-- A path that came along and is not of the own package. -/
  | attached {path : Label} (came : path ∈ existing)
      (foreign : ImportSet.isUnder apiPackage path = false) :
      OperationNeeds operations existing apiPackage path
  /-- The package that puts a parameter into its path. -/
  | inPath {typed : TypedOperation} {parameter : Parameter} (operation : typed ∈ operations)
      (member : parameter ∈ typed.operation.parameters) (location : parameter.location = .path) :
      OperationNeeds operations existing apiPackage stringsImport
  /-- What an operation needs. -/
  | operation {typed : TypedOperation} {path : Label} (member : typed ∈ operations)
      (needs : typed.Needs path) : OperationNeeds operations existing apiPackage path

/-- What an operation needs are packages. -/
theorem TypedOperation.Needs.exists_eq_ofText {typed : TypedOperation} {path : Label}
    (needs : typed.Needs path) : ∃ package : String, path = .ofText package := by
  cases needs with
  | answer _ asked => exact ⟨_, rfl⟩
  | parameter _ asked => exact ⟨_, rfl⟩
  | repeated _ _ => exact ⟨_, rfl⟩

/-- An operation whose parameters have a type each. -/
def TypedOperation.IsComplete (typed : TypedOperation) : Prop :=
  typed.parameterTypes.length = typed.operation.parameters.length

namespace ImportSet

variable (imports : ImportSet) (path : Label)

/-- With a parameter come the paths of its type, and `reflect` if it is given once for each value.
-/
theorem contains_addParameter (entry : Parameter × GoType) :
    (imports.addParameter entry).contains path = true ↔
      imports.contains path = true ∨ (∃ package ∈ entry.2.imports, path = .ofText package) ∨
        (entry.1.collectionFormat = some multiFormat ∧ path = .ofText reflectImport) := by
  rw [addParameter, contains_addIf, contains_addType, or_assoc]

/-- Of an operation whose parameters have a type each, every parameter and every type is seen. The
loop runs over pairs, and neither list is the longer one. -/
theorem contains_addOperation {typed : TypedOperation} (complete : typed.IsComplete) :
    (imports.addOperation typed).contains path = true ↔
      imports.contains path = true ∨ typed.Needs path := by
  rw [addOperation, contains_foldl _ path fun entry _ before =>
    contains_addParameter before path entry, contains_addTypes, or_assoc]
  refine or_congr_right ⟨?_, fun needs => ?_⟩
  · rintro (⟨type, answers, package, asked, rfl⟩ | ⟨⟨parameter, type⟩, entry, needs⟩)
    · exact .answer (Option.mem_toList.1 answers) asked
    · obtain ⟨member, takes⟩ := List.of_mem_zip entry
      rcases needs with ⟨package, asked, rfl⟩ | ⟨multi, rfl⟩
      · exact .parameter takes asked
      · exact .repeated member multi
  · cases needs with
    | answer answers asked => exact .inl ⟨_, Option.mem_toList.2 answers, _, asked, rfl⟩
    | parameter takes asked =>
      rw [← List.map_snd_zip (Nat.le_of_eq complete)] at takes
      obtain ⟨entry, member, rfl⟩ := List.mem_map.1 takes
      exact .inr ⟨entry, member, .inl ⟨_, asked, rfl⟩⟩
    | repeated member multi =>
      rw [← List.map_fst_zip (Nat.le_of_eq complete.symm)] at member
      obtain ⟨entry, there, rfl⟩ := List.mem_map.1 member
      exact .inr ⟨entry, there, .inr ⟨multi, rfl⟩⟩

/-- With operations comes what one of them needs. -/
theorem contains_addOperations {operations : List TypedOperation}
    (complete : ∀ typed ∈ operations, typed.IsComplete) :
    (operations.foldl addOperation imports).contains path = true ↔
      imports.contains path = true ∨ ∃ typed ∈ operations, typed.Needs path :=
  contains_foldl imports path fun typed member before =>
    contains_addOperation before path (complete typed member)

end ImportSet

/-- Some operation has a parameter in its path where one of its parameters stands there. -/
theorem any_hasPathParameter_iff (operations : List TypedOperation) :
    operations.any (·.operation.hasPathParameter) = true ↔
      ∃ typed ∈ operations, ∃ parameter ∈ typed.operation.parameters,
        parameter.location = .path := by
  simp only [List.any_eq_true, Operation.hasPathParameter, beq_iff_eq]

/-- The imports of an interface file are what its code needs. -/
theorem isExact_operationImports {operations : List TypedOperation}
    (complete : ∀ typed ∈ operations, typed.IsComplete) (existing : List Label)
    (apiPackage : String) (table : Table Label (List Label)) :
    (operationImports operations existing apiPackage table).IsExact
      (OperationNeeds operations existing apiPackage) table := by
  refine ImportSet.isExact_expanded fun path => ?_
  rw [ImportSet.contains_addOperations _ path complete, ImportSet.contains_addIf,
    ImportSet.contains_dropUnder, ImportSet.contains_ofList, any_hasPathParameter_iff]
  constructor
  · rintro ((⟨⟨source, came, same⟩, foreign⟩ | ⟨⟨typed, member, parameter, there, location⟩, rfl⟩) |
      ⟨typed, member, needs⟩)
    · have kept := ImportSet.isUnder_congr same apiPackage
      exact ⟨source, .attached came (kept.symm.trans foreign), same⟩
    · exact ⟨_, .inPath member there location, BEq.rfl⟩
    · exact ⟨path, .operation member needs, BEq.rfl⟩
  · rintro ⟨source, needs, same⟩
    cases needs with
    | attached came foreign =>
      have kept := ImportSet.isUnder_congr same apiPackage
      exact .inl (.inl ⟨⟨source, came, same⟩, kept.trans foreign⟩)
    | inPath member there location =>
      exact .inl (.inr ⟨⟨_, member, _, there, location⟩, (Label.beq_ofText_iff _ _).1 same⟩)
    | operation member needs =>
      obtain ⟨package, rfl⟩ := needs.exists_eq_ofText
      rw [(Label.beq_ofText_iff path package).1 same]
      exact .inr ⟨_, member, needs⟩

/-- What is needed by some operations is needed by more of them. -/
theorem OperationNeeds.mono {operations more : List TypedOperation} (subset : operations ⊆ more)
    {existing : List Label} {apiPackage : String} {path : Label}
    (needs : OperationNeeds operations existing apiPackage path) :
    OperationNeeds more existing apiPackage path := by
  cases needs with
  | attached came foreign => exact .attached came foreign
  | inPath operation member location => exact .inPath (subset operation) member location
  | operation member needs => exact .operation (subset member) needs

/-! ## Model files -/

/-- What the code of a model file needs. -/
inductive ModelNeeds (types : List GoType) (options : ModelImportOptions) : Label → Prop where
  /-- A path that came along and is not of the own package. -/
  | attached {path : Label} (came : path ∈ options.existing)
      (foreign : ImportSet.isUnder options.modelPackage path = false) :
      ModelNeeds types options path
  /-- The packages of a type that stands in the file. -/
  | type {type : GoType} {package : String} (stands : type ∈ types)
      (asked : package ∈ type.imports) : ModelNeeds types options package
  /-- The package that formats the values of an enumeration. -/
  | format (isEnum : options.isEnum = true) (wanted : options.enumFmtImport = true) :
      ModelNeeds types options fmtImport
  /-- The package that validates what is read as one of several models. -/
  | validate (oneOf : options.hasOneOf = true) (wanted : options.generateUnmarshalJson = true) :
      ModelNeeds types options validatorImport

/-- The imports of a model file are what its code needs. -/
theorem isExact_modelImports (types : List GoType) (options : ModelImportOptions) :
    (modelImports types options).IsExact (ModelNeeds types options) options.importMapping := by
  refine ImportSet.isExact_expanded fun path => ?_
  simp only [ImportSet.contains_addIf, ImportSet.contains_addTypes, ImportSet.contains_dropUnder,
    ImportSet.contains_ofList, Bool.and_eq_true]
  constructor
  · rintro (((⟨⟨source, came, same⟩, foreign⟩ | ⟨type, stands, package, asked, rfl⟩) |
      ⟨⟨isEnum, wanted⟩, rfl⟩) | ⟨⟨oneOf, wanted⟩, rfl⟩)
    · have kept := ImportSet.isUnder_congr same options.modelPackage
      exact ⟨source, .attached came (kept.symm.trans foreign), same⟩
    · exact ⟨_, .type stands asked, BEq.rfl⟩
    · exact ⟨_, .format isEnum wanted, BEq.rfl⟩
    · exact ⟨_, .validate oneOf wanted, BEq.rfl⟩
  · rintro ⟨source, needs, same⟩
    cases needs with
    | attached came foreign =>
      have kept := ImportSet.isUnder_congr same options.modelPackage
      exact .inl (.inl (.inl ⟨⟨source, came, same⟩, kept.trans foreign⟩))
    | type stands asked =>
      exact .inl (.inl (.inr ⟨_, stands, _, asked, (Label.beq_ofText_iff _ _).1 same⟩))
    | format isEnum wanted =>
      exact .inl (.inr ⟨⟨isEnum, wanted⟩, (Label.beq_ofText_iff _ _).1 same⟩)
    | validate oneOf wanted => exact .inr ⟨⟨oneOf, wanted⟩, (Label.beq_ofText_iff _ _).1 same⟩

/-- What is needed for some types is needed for more of them. -/
theorem ModelNeeds.mono {types more : List GoType} (subset : types ⊆ more)
    {options : ModelImportOptions} {path : Label} (needs : ModelNeeds types options path) :
    ModelNeeds more options path := by
  cases needs with
  | attached came foreign => exact .attached came foreign
  | type stands asked => exact .type (subset stands) asked
  | format isEnum wanted => exact .format isEnum wanted
  | validate oneOf wanted => exact .validate oneOf wanted

/-! ## Exact imports -/

/-- The imports of an interface file and those of a model file hold each path once, and just the
paths that come in the place of one that the code of the file needs. So the same paths are imported
for operations in another order, and for types in another order. -/
theorem imports_exact :
    (∀ (operations : List TypedOperation) (existing : List Label) (apiPackage : String)
      (table : Table Label (List Label)), (∀ typed ∈ operations, typed.IsComplete) →
      (operationImports operations existing apiPackage table).IsExact
        (OperationNeeds operations existing apiPackage) table ∧
      ∀ permuted : List TypedOperation, permuted.Perm operations → ∀ path,
        (operationImports permuted existing apiPackage table).contains path =
          (operationImports operations existing apiPackage table).contains path) ∧
    ∀ (types : List GoType) (options : ModelImportOptions),
      (modelImports types options).IsExact (ModelNeeds types options) options.importMapping ∧
      ∀ permuted : List GoType, permuted.Perm types → ∀ path,
        (modelImports permuted options).contains path =
          (modelImports types options).contains path := by
  constructor
  · intro operations existing apiPackage table complete
    have exact := isExact_operationImports complete existing apiPackage table
    refine ⟨exact, fun permuted order path => ?_⟩
    have completePermuted : ∀ typed ∈ permuted, typed.IsComplete :=
      fun typed member => complete typed (order.mem_iff.1 member)
    refine (isExact_operationImports completePermuted existing apiPackage table).contains_eq exact
      (fun source => ?_) path
    exact ⟨.mono order.subset, .mono order.symm.subset⟩
  · intro types options
    have exact := isExact_modelImports types options
    refine ⟨exact, fun permuted order path => ?_⟩
    refine (isExact_modelImports permuted options).contains_eq exact (fun source => ?_) path
    exact ⟨.mono order.subset, .mono order.symm.subset⟩

/-- A path that is replaced by nothing may come in the place of another: an operation with a
parameter in its path alone imports nothing, and beside one with a parameter that is given once for
each of its dates the file imports `strings` in the place of `reflect`, whichever comes first. -/
theorem replaced_strings_imported :
    let get : TypedOperation := {
      operation := {
        operationId := "getPet", httpMethod := "GET"
        parameters := [{ rawName := "id", schema := .primitive "long", location := .path }] }
      parameterTypes := [.ofDeclaration "int64"], returnType := none }
    let find : TypedOperation := {
      operation := {
        operationId := "findPets", httpMethod := "GET"
        parameters := [{
          rawName := "born", schema := .array (.primitive "date") false
          collectionFormat := some "multi" }] }
      parameterTypes := [.slice (.ofDeclaration "time.Time") "time.Time"], returnType := none }
    let table : Table Label (List Label) :=
      .ofList [("strings", []), ("reflect", ["strings", "reflect"])]
    (∀ typed ∈ [get, find], typed.IsComplete) ∧
      (operationImports [get, find] ["petstore/model"] "petstore" table).contains "strings" = true ∧
      (operationImports [find, get] ["petstore/model"] "petstore" table).contains "strings" = true ∧
      (operationImports [get] ["petstore/model"] "petstore" table).size = 0 := by
  intro get find table
  have complete : ∀ typed ∈ [get, find], typed.IsComplete := by
    intro typed member
    rcases List.mem_cons.1 member with rfl | last
    · rfl
    · rw [List.mem_singleton.1 last]
      rfl
  obtain ⟨exact, reordered⟩ :=
    imports_exact.1 [get, find] ["petstore/model"] "petstore" table complete
  have walked : find.Needs reflectImport := .repeated List.mem_cons_self rfl
  have needed : OperationNeeds [get, find] ["petstore/model"] "petstore" reflectImport :=
    .operation (List.mem_cons_of_mem get List.mem_cons_self) walked
  have replaced : ImportSet.Replaces table reflectImport "strings" :=
    .inl ⟨_, rfl, _, List.mem_cons_self, BEq.rfl⟩
  have imported := (exact.contains_iff "strings").2 ⟨reflectImport, needed, replaced⟩
  have alone : (operationImports [get] ["petstore/model"] "petstore" table).size = 0 := by
    decide +kernel
  refine ⟨complete, imported, ?_, alone⟩
  rw [reordered [find, get] (List.Perm.swap get find []) "strings"]
  exact imported

end GoBindings
