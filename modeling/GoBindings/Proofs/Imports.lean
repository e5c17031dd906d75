import GoBindings.Proofs.Tables
import GoBindings.UnitImports

/-!
# Members of import sets

Which paths stand in an import set that was built. A set is built by adding paths one after another,
so each step brings its paths to those that are there, and what a loop brings is what one of its
steps brings. Where only packages are looked for, which are texts, a path is a member of a set as it
is a member of the list of its paths. The main statement says what the imports of a model file
without replacements are.
-/

namespace GoBindings

namespace ImportSet

/-! ## What each step brings -/

section Members

variable (imports : ImportSet) (path : Label)

/-- A loop brings what one of its steps brings, where each step brings the same to every set. -/
theorem contains_foldl {α : Type} {step : ImportSet → α → ImportSet} {Brings : α → Prop}
    {items : List α} (each : ∀ item ∈ items, ∀ imports, (step imports item).contains path = true ↔
      imports.contains path = true ∨ Brings item) :
    (items.foldl step imports).contains path = true ↔
      imports.contains path = true ∨ ∃ item ∈ items, Brings item := by
  induction items generalizing imports with
  | nil => simp
  | cons first rest ih =>
    have later := ih (step imports first) fun item member =>
      each item (List.mem_cons_of_mem first member)
    have now := each first List.mem_cons_self imports
    simp only [List.foldl_cons, later, now, or_assoc, List.mem_cons, exists_eq_or_imp]

/-- The paths of a list are added to those before. -/
theorem contains_addAll (paths : List Label) :
    (imports.addAll paths).contains path = true ↔
      imports.contains path = true ∨ ∃ added ∈ paths, path == added := by
  refine contains_foldl imports path fun added _ before => ?_
  rw [contains_add, Bool.or_eq_true]

/-- The paths of a list are all in its set. -/
theorem contains_ofList (paths : List Label) :
    (ofList paths).contains path = true ↔ ∃ added ∈ paths, path == added := by
  rw [ofList, contains_addAll]
  exact or_iff_right Bool.false_ne_true

/-- Paths that are the same lie under the same starts. -/
theorem isUnder_congr {path other : Label} (same : path == other) (start : String) :
    isUnder start path = isUnder start other := by
  rw [isUnder, isUnder, Label.asText?_congr same]

/-- The paths that do not lie under a start stay. -/
theorem contains_dropUnder (start : String) :
    (imports.dropUnder start).contains path = true ↔
      imports.contains path = true ∧ isUnder start path = false := by
  simp only [contains, dropUnder, List.contains_iff_exists_mem_beq, List.mem_filter,
    Bool.not_eq_true']
  constructor
  · rintro ⟨other, ⟨member, kept⟩, same⟩
    exact ⟨⟨other, member, same⟩, (isUnder_congr same start).trans kept⟩
  · rintro ⟨⟨other, member, same⟩, kept⟩
    exact ⟨other, ⟨member, (isUnder_congr same start).symm.trans kept⟩, same⟩

/-- A type brings the packages that it asks for. -/
theorem contains_addType (type : GoType) :
    (imports.addType type).contains path = true ↔
      imports.contains path = true ∨ ∃ package ∈ type.imports, path = .ofText package := by
  have sorted (package : String) : package ∈ type.sortedImports ↔ package ∈ type.imports := by
    rw [GoType.sortedImports, List.mem_eraseDups, List.mem_mergeSort]
  rw [addType, contains_addAll]
  refine or_congr_right ⟨?_, ?_⟩
  · rintro ⟨added, member, same⟩
    obtain ⟨package, listed, rfl⟩ := List.mem_map.1 member
    exact ⟨package, (sorted package).1 listed, (Label.beq_ofText_iff path package).1 same⟩
  · rintro ⟨package, listed, rfl⟩
    exact ⟨_, List.mem_map_of_mem ((sorted package).2 listed), BEq.rfl⟩

/-- With types come the paths that one of them asks for. -/
theorem contains_addTypes (types : List GoType) :
    (imports.addTypes types).contains path = true ↔
      imports.contains path = true ∨
        ∃ type ∈ types, ∃ package ∈ type.imports, path = .ofText package :=
  contains_foldl imports path fun type _ before => contains_addType before path type

/-- A path that is added on a condition. -/
theorem contains_addIf (condition : Prop) [Decidable condition] (other : String) :
    (if condition then imports.add other else imports).contains path = true ↔
      imports.contains path = true ∨ (condition ∧ path = .ofText other) := by
  split
  · rename_i holds
    rw [contains_add, Bool.or_eq_true, Label.beq_ofText_iff]
    simp only [holds, true_and]
  · rename_i fails
    simp only [fails, false_and, or_false]

end Members

/-! ## Packages -/

variable (imports : ImportSet) (path : String)

/-- Whether a text is among the paths. -/
def Has : Prop := Label.ofText path ∈ imports.paths

/-- A set has a path where it contains the text of the path. -/
theorem has_iff : imports.Has path ↔ imports.contains (.ofText path) = true := by
  rw [Has, contains, List.contains_iff_exists_mem_beq]
  constructor
  · exact fun member => ⟨_, member, BEq.rfl⟩
  · rintro ⟨other, member, same⟩
    rwa [(Label.beq_ofText_iff other path).1 (BEq.symm same)] at member

/-- The paths of a list are all in its set. -/
theorem has_ofList (paths : List Label) : (ofList paths).Has path ↔ .ofText path ∈ paths := by
  rw [has_iff, contains_ofList]
  constructor
  · rintro ⟨added, member, same⟩
    rwa [(Label.beq_ofText_iff added path).1 (BEq.symm same)] at member
  · exact fun member => ⟨_, member, BEq.rfl⟩

/-- The paths that are left are those not under the start. -/
theorem has_dropUnder (start : String) :
    (imports.dropUnder start).Has path ↔
      imports.Has path ∧ isUnder start (.ofText path) = false := by
  rw [has_iff, has_iff, contains_dropUnder]

/-- Without replacements all paths stay. -/
theorem has_expanded_empty : (imports.expanded Table.empty).Has path ↔ imports.Has path := by
  have kept : imports.paths.flatMap (replacementsOf Table.empty) = imports.paths :=
    List.flatMap_singleton' imports.paths
  rw [expanded, kept, has_ofList]
  rfl

/-- With types a set has the paths that one of them asks for. -/
theorem has_addTypes (types : List GoType) :
    (imports.addTypes types).Has path ↔ imports.Has path ∨ ∃ type ∈ types, path ∈ type.imports := by
  rw [has_iff, has_iff, contains_addTypes]
  simp only [Label.ofText_inj, exists_eq_right']

/-- A path that is added on a condition. -/
theorem has_addIf (condition : Bool) (other : String) :
    (if condition then imports.add other else imports).Has path ↔
      imports.Has path ∨ (condition = true ∧ path = other) := by
  rw [has_iff, has_iff, contains_addIf, Label.ofText_inj]

end ImportSet

/-- A model file without replacements imports what came with the model and is not of its own
package, what its types ask for, and what its code calls. -/
theorem has_modelImports {types : List GoType} {options : ModelImportOptions}
    (noReplacements : options.importMapping = Table.empty) (path : String) :
    (modelImports types options).Has path ↔
      (((.ofText path ∈ options.existing ∧
          ImportSet.isUnder options.modelPackage (.ofText path) = false) ∨
        ∃ type ∈ types, path ∈ type.imports) ∨
      ((options.isEnum && options.enumFmtImport) = true ∧ path = fmtImport)) ∨
      ((options.hasOneOf && options.generateUnmarshalJson) = true ∧ path = validatorImport) := by
  simp only [modelImports, noReplacements, ImportSet.has_expanded_empty, ImportSet.has_addIf,
    ImportSet.has_addTypes, ImportSet.has_dropUnder, ImportSet.has_ofList]

end GoBindings
