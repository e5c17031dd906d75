import GoBindings.Naming.Resolve
import GoBindings.Proofs.Naming.FileSpelling

/-!
# Requests with an override key

A request may give the key of an override that goes before the rule of its category, and every rule
but those for operations and their files looks its raw name up in the same table. To give the raw
name as key so asks one table twice. For most categories that changes nothing, because both lookups
hand an override on as it is. The rule for the files of models does not: it takes the override for
the raw name and makes a file name of it, while the override of a key is the file name. The main
statement says when the two agree.
-/

namespace GoBindings.Naming

/-- Asking a table twice for a name is asking it once. -/
theorem overriddenBy_overriddenBy (table : Table Label Label) (raw : String)
    (computed : Report InvalidMapping Label) :
    overriddenBy table raw (overriddenBy table raw computed) =
      overriddenBy table raw computed := by
  simp only [overriddenBy]
  cases lookupOverride table (.ofText raw) with
  | error fault => rfl
  | ok found =>
    cases found with
    | none => rfl
    | some name => rfl

/-- A request for a model file is the only one that its own key may change: elsewhere not even the
announcements do. -/
theorem resolve_own_key (naming : Naming) (raw : String) {category : NameCategory}
    (other : category ≠ .modelFileName) (datatype : Option String) :
    naming.resolve ⟨raw, category, some raw, datatype⟩ =
      naming.resolve ⟨raw, category, none, datatype⟩ := by
  cases category with
  | modelFileName => exact absurd rfl other
  | «variable» | parameter | modelName | enumConstant | enumTypeName =>
    exact overriddenBy_overriddenBy _ raw _
  | operationFileName | operationTestFileName | operation => rfl

/-- An override that the rule for the files of models leaves alone. -/
def IsFileOverride (name : Label) : Prop := ∃ file, name = .ofText file ∧ IsSafeModelFile file

/-- The name of a file is the override it is computed from where the rule leaves that alone. -/
theorem ofText_computedModelFileName_eq_iff (naming : Naming) (name : Label) :
    .ofText (naming.computedModelFileName name.text).name = name ↔ IsFileOverride name := by
  constructor
  · intro same
    exact ⟨_, same.symm, naming.isSafeModelFile_computedModelFileName name.text⟩
  · rintro ⟨file, rfl, safe⟩
    rw [Label.text_ofText, (naming.computedModelFileName_eq_self_iff file).2 safe]

/-- The file of a model without a key has the name that is computed from its override, if it has
one, and from its raw name if not. -/
theorem result_resolve_modelFileName (naming : Naming) (raw : String) (datatype : Option String) :
    (naming.resolve ⟨raw, .modelFileName, none, datatype⟩).result =
      (lookupOverride naming.settings.modelNameMapping raw).map fun found =>
        .ofText (naming.computedModelFileName ((found.map Label.text).getD raw)).name := by
  change (Label.ofText <$> naming.modelFileName raw).result = _
  rw [Report.result_map, modelFileName, overriddenBy]
  cases lookupOverride naming.settings.modelNameMapping (.ofText raw) with
  | error fault => rfl
  | ok found =>
    cases found with
    | none => rfl
    | some name => rfl

/-- The file of a model whose raw name is given as key has its override as name, if it has one. -/
theorem result_resolve_modelFileName_own_key (naming : Naming) (raw : String)
    (datatype : Option String) :
    (naming.resolve ⟨raw, .modelFileName, some raw, datatype⟩).result =
      (lookupOverride naming.settings.modelNameMapping raw).map fun found =>
        found.getD (.ofText (naming.computedModelFileName raw).name) := by
  have without := result_resolve_modelFileName naming raw datatype
  change (overriddenBy naming.settings.modelNameMapping raw
    (naming.resolve ⟨raw, .modelFileName, none, datatype⟩)).result = _
  rw [overriddenBy]
  cases looked : lookupOverride naming.settings.modelNameMapping (.ofText raw) with
  | error fault => rfl
  | ok found =>
    rw [looked] at without
    cases found with
    | none => exact without
    | some name => rfl

/-- To give the raw name of a request as its override key leaves the outcome, name or failure, under
all settings and for every category, except for the file of a model whose override is no name that
the rule for such files leaves alone: in small letters, digits and underscores, with the start of
model files, and without a last part that means something to the Go tool. -/
theorem resolve_own_key_iff (naming : Naming) (raw : String) (category : NameCategory)
    (datatype : Option String) :
    (naming.resolve ⟨raw, category, some raw, datatype⟩).result =
        (naming.resolve ⟨raw, category, none, datatype⟩).result ↔
      (category = .modelFileName → ∀ name,
        lookupOverride naming.settings.modelNameMapping raw = .ok (some name) →
          IsFileOverride name) := by
  by_cases file : category = .modelFileName
  · subst file
    rw [result_resolve_modelFileName, result_resolve_modelFileName_own_key]
    cases lookupOverride naming.settings.modelNameMapping (.ofText raw) with
    | error fault => exact iff_of_true rfl fun _ _ given => nomatch given
    | ok found =>
      cases found with
      | none => exact iff_of_true rfl fun _ _ given => nomatch given
      | some name =>
        have agree := ofText_computedModelFileName_eq_iff naming name
        simp only [Except.map, Option.map_some, Option.getD_some, Except.ok.injEq,
          Option.some.injEq, forall_const, forall_eq', ← agree]
        exact eq_comm
  · rw [resolve_own_key naming raw file datatype]
    exact iff_of_true rfl fun same => absurd same file

/-- Settings that override the name of one model. -/
def renamedModel : Settings := { modelNameMapping := Table.ofList [("Pet", "Animal")] }

/-- The override `Animal` is the file name of the model `Pet` where `Pet` is given as key, and where
it is not the file name is made from the override: the key changes the outcome. -/
theorem own_key_changes_file :
    ∃ naming, Naming.ofSettings renamedModel = .ok naming ∧
      (naming.resolve ⟨"Pet", .modelFileName, some "Pet", none⟩).result = .ok (.ofText "Animal") ∧
      (naming.resolve ⟨"Pet", .modelFileName, none, none⟩).result =
        .ok (.ofText "model_animal") ∧
      (naming.resolve ⟨"Pet", .modelFileName, some "Pet", none⟩).result ≠
        (naming.resolve ⟨"Pet", .modelFileName, none, none⟩).result := by
  have built : Naming.ofSettings renamedModel = .ok ⟨renamedModel, .plain⟩ := by
    rw [ofSettings, ReservedWords.ofSettings]
    change (ReservedWords.build (GoWords.reserved ++ []) Table.empty).map _ = _
    rw [List.append_nil, ReservedWords.build_reserved]
    rfl
  have overridden : lookupOverride renamedModel.modelNameMapping "Pet" = .ok (some "Animal") := rfl
  have file : plainFileName "Animal" = "model_animal" := by decide
  have keyed : (resolve ⟨renamedModel, .plain⟩ ⟨"Pet", .modelFileName, some "Pet", none⟩).result =
      .ok (.ofText "Animal") := by
    rw [result_resolve_modelFileName_own_key, overridden]
    rfl
  have unkeyed : (resolve ⟨renamedModel, .plain⟩ ⟨"Pet", .modelFileName, none, none⟩).result =
      .ok (.ofText "model_animal") := by
    rw [result_resolve_modelFileName, overridden, ← file]
    rfl
  refine ⟨_, built, keyed, unkeyed, fun same => ?_⟩
  rw [keyed, unkeyed] at same
  have texts := congrArg (Except.map Label.text) same
  simp [Except.map] at texts

end GoBindings.Naming
