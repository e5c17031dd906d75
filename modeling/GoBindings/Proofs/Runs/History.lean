import GoBindings.Proofs.Runs.Outcome

/-!
# Runs one after another

A run registers its models for good, so a generator that has made runs admits the models of all of
them, of those that failed too. What is left of a later run is the same as on a fresh generator just
where that makes no difference: where the run refers to its own models only, where a model that it
refers to is in no run at all, or where it fails on its names.
-/

namespace GoBindings

/-- What a generator is asked to make at once. -/
structure Run where
  /-- The models. -/
  models : List Model
  /-- The groups of operations. -/
  groups : Table String (List Operation)

namespace Run

/-- The names of the models of a run. -/
def declared (run : Run) : List String := run.models.map Model.name

/-- The references that a run meets. -/
def references (run : Run) : List String := runReferences run.models run.groups

end Run

namespace Generator

variable (generator : Generator)

/-- The generator after some runs. -/
def after (history : List Run) : Generator :=
  history.foldl (fun current run => (current.generate run.models run.groups).1) generator

/-- What a run leaves. -/
def leaves (run : Run) : Outcome := generator.outcome run.models run.groups

/-- A run registers its models, whether it succeeds or fails. -/
theorem generate_eq_withModels (run : Run) :
    (generator.generate run.models run.groups).1 =
      generator.withModels (generator.types.models ++ run.declared) := rfl

/-- After some runs the models of all of them are registered. -/
theorem after_eq_withModels (history : List Run) :
    generator.after history =
      generator.withModels (generator.types.models ++ history.flatMap Run.declared) := by
  induction history generalizing generator with
  | nil =>
    rw [List.flatMap_nil, List.append_nil]
    rfl
  | cons run rest ih =>
    have first : generator.after (run :: rest) =
        (generator.generate run.models run.groups).1.after rest := rfl
    rw [first, generate_eq_withModels, ih, List.flatMap_cons, ← List.append_assoc]
    rfl

/-- Two registrations leave the same of a run where it succeeds under both or under neither. -/
theorem leaves_eq_iff (run : Run) (models others : List String) :
    (generator.withModels models).leaves run = (generator.withModels others).leaves run ↔
      (((generator.withModels models).leaves run).success = true ↔
        ((generator.withModels others).leaves run).success = true) := by
  have consults := generator.records_consults run.models run.groups
  constructor
  · intro same
    rw [same]
  · intro together
    simp only [leaves, outcome_eq, Outcome.success_ofResult] at together ⊢
    by_cases succeeds : ((generator.withModels models).register run.models
      |>.records run.models run.groups).Succeeds
    · exact congrArg Outcome.ofResult (consults.eq_of_succeeds succeeds (together.1 succeeds))
    · rw [Outcome.ofResult_of_not_succeeds succeeds,
        Outcome.ofResult_of_not_succeeds (succeeds ∘ together.2)]

/-- A run succeeds where its references may be made and nothing else fails: where it succeeds with
its references registered. -/
theorem leaves_success_iff (run : Run) (models : List String) :
    ((generator.withModels models).leaves run).success = true ↔
      (∀ name ∈ run.references, name ∈ models ++ run.declared) ∧
        ((generator.withModels run.references).leaves run).success = true := by
  have consults := generator.records_consults run.models run.groups
  have enough : ∀ name ∈ run.references, name ∈ run.references ++ run.declared :=
    fun name member => List.mem_append_left run.declared member
  simp only [leaves, outcome_eq, Outcome.success_ofResult]
  have here := consults.succeeds_iff_and (models ++ run.declared)
  have there := consults.succeeds_iff_and (run.references ++ run.declared)
  exact here.trans (and_congr_right fun _ => (there.trans (and_iff_right enough)).symm)

/-- Without blank overrides, a run succeeds after other runs exactly where every reference that it
meets names a model of its own, of an earlier run or of the generator. -/
theorem leaves_after_success_iff (noBlanks : generator.NoBlankOverrides) (history : List Run)
    (run : Run) :
    ((generator.after history).leaves run).success = true ↔ ∀ name ∈ run.references,
      name ∈ generator.types.models ++ history.flatMap Run.declared ++ run.declared := by
  rw [after_eq_withModels, leaves, outcome_eq, Outcome.success_ofResult]
  exact (generator.records_consults run.models run.groups).succeeds_iff noBlanks _

/-- A reference may not be made exactly where neither the run nor an earlier one has its model. -/
theorem missing_iff (history : List Run) (run : Run) :
    (¬ ∀ name ∈ run.references, name ∈ history.flatMap Run.declared ++ run.declared) ↔
      ∃ name ∈ run.references,
        name ∉ run.declared ∧ ∀ earlier ∈ history, name ∉ earlier.declared := by
  constructor
  · intro incomplete
    obtain ⟨name, rest⟩ := Classical.not_forall.1 incomplete
    obtain ⟨member, absent⟩ := Classical.not_imp.1 rest
    rw [List.mem_append, List.mem_flatMap] at absent
    exact ⟨name, member, fun own => absent (.inr own),
      fun earlier listed own => absent (.inl ⟨earlier, listed, own⟩)⟩
  · rintro ⟨name, member, notOwn, notEarlier⟩ all
    rcases List.mem_append.1 (all name member) with before | own
    · obtain ⟨earlier, listed, has⟩ := List.mem_flatMap.1 before
      exact notEarlier earlier listed has
    · exact notOwn own

/-- What is left of a run after other runs is what is left of it on a fresh generator exactly where
the run refers to its own models only, where it refers to a model that neither it nor an earlier run
has, or where it fails even with all models registered that it refers to. -/
theorem leaves_after_eq_iff {settings : GoSettings} {generator : Generator}
    (fresh : ofSettings settings = .ok generator) (history : List Run) (run : Run) :
    (generator.after history).leaves run = generator.leaves run ↔
      (∀ name ∈ run.references, name ∈ run.declared) ∨
      (∃ name ∈ run.references,
        name ∉ run.declared ∧ ∀ earlier ∈ history, name ∉ earlier.declared) ∨
      ((generator.withModels run.references).leaves run).success = false := by
  have started : generator.withModels [] = generator := by
    rw [← models_of_ofSettings fresh]
    rfl
  have registered : generator.after history =
      generator.withModels (history.flatMap Run.declared) := by
    rw [after_eq_withModels, models_of_ofSettings fresh, List.nil_append]
  have same := generator.leaves_eq_iff run (history.flatMap Run.declared) []
  have later := generator.leaves_success_iff run (history.flatMap Run.declared)
  have alone := generator.leaves_success_iff run []
  rw [started] at same alone
  rw [List.nil_append] at alone
  rw [registered, same, later, alone]
  have wider (own : ∀ name ∈ run.references, name ∈ run.declared) :
      ∀ name ∈ run.references, name ∈ history.flatMap Run.declared ++ run.declared :=
    fun name member => List.mem_append_right _ (own name member)
  constructor
  · intro together
    by_cases own : ∀ name ∈ run.references, name ∈ run.declared
    · exact .inl own
    · by_cases all : ∀ name ∈ run.references, name ∈ history.flatMap Run.declared ++ run.declared
      · exact .inr (.inr (Bool.eq_false_iff.2 fun done => own (together.1 ⟨all, done⟩).1))
      · exact .inr (.inl ((missing_iff history run).1 all))
  · rintro (own | lost | fails)
    · exact ⟨fun both => ⟨own, both.2⟩, fun both => ⟨wider own, both.2⟩⟩
    · have apart := (missing_iff history run).2 lost
      exact ⟨fun both => absurd both.1 apart, fun both => absurd (wider both.1) apart⟩
    · rw [fails]
      exact ⟨fun both => Bool.noConfusion both.2, fun both => Bool.noConfusion both.2⟩

/-- A run that refers to its own models only leaves the same after a run over a model of one of
their names. -/
theorem leaves_own_references_after :
    let tag : Model := { name := "Tag" }
    let pet : Model :=
      { name := "Pet", fields := [{ baseName := "tag", schema := .reference "Tag" }] }
    ofSettings {} = .ok (plain {}) ∧
    ((plain {}).after [⟨[tag], Table.empty⟩]).leaves ⟨[pet, tag], Table.empty⟩ =
      (plain {}).leaves ⟨[pet, tag], Table.empty⟩ := by
  intro tag pet
  have fresh : ofSettings {} = .ok (plain {}) :=
    ofSettings_eq_plain ⟨rfl, rfl, rfl, rfl, rfl⟩ rfl rfl
  refine ⟨fresh, (leaves_after_eq_iff fresh _ _).2 (.inl fun name member => ?_)⟩
  rw [List.mem_singleton.1 (show name ∈ ["Tag"] from member)]
  exact List.mem_cons_of_mem "Pet" List.mem_cons_self

/-- A model of an earlier run is not missed: a run that refers to it succeeds, which fails on a
fresh generator. -/
theorem earlier_model_not_missed :
    let tag : Model := { name := "Tag" }
    let pet : Model :=
      { name := "Pet", fields := [{ baseName := "tag", schema := .reference "Tag" }] }
    ofSettings {} = .ok (plain {}) ∧
    (((plain {}).after [⟨[tag], Table.empty⟩]).leaves ⟨[pet], Table.empty⟩).success = true ∧
    ((plain {}).leaves ⟨[pet], Table.empty⟩).success = false := by
  intro tag pet
  refine ⟨ofSettings_eq_plain ⟨rfl, rfl, rfl, rfl, rfl⟩ rfl rfl, ?_, Bool.eq_false_iff.2 ?_⟩
  · rw [leaves_after_success_iff _ noBlankOverrides_plain]
    exact fun name member => List.mem_append_left ["Pet"] member
  · intro done
    have alone := (plain {}).leaves_after_success_iff noBlankOverrides_plain []
      ⟨[pet], Table.empty⟩
    have admitted : "Tag" ∈ ["Pet"] := alone.1 done "Tag" List.mem_cons_self
    exact absurd (List.mem_singleton.1 admitted) (by decide)

end Generator

end GoBindings
