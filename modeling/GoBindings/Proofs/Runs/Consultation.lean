import GoBindings.Naming.InvalidMapping
import GoBindings.Proofs.Reports

/-!
# Computations that look up models

What the generator does with a schema depends on which models are registered, but only through the
references that it meets. `Consults` says so of a computation over the registered names: it gives
the names that are looked up, in order, such that the outcome depends on nothing else of the
registration, that success means that all of them are registered, and that a failure is that of the
first one that is not, unless something else can fail. It is kept by sequencing and by traversals,
so it passes from schemas to whole runs.
-/

namespace GoBindings

/-! ## Lookups -/

/-- The first of some names that is not registered. -/
def firstUnregistered (models names : List String) : Option String :=
  names.find? fun name => !models.contains name

/-- Every name is registered where none is the first that is not. -/
theorem firstUnregistered_eq_none {models names : List String} :
    firstUnregistered models names = none ↔ ∀ name ∈ names, name ∈ models := by
  simp [firstUnregistered]

/-- The first of two lists of names comes from the second where the first list is registered. -/
theorem firstUnregistered_append (models names more : List String) :
    firstUnregistered models (names ++ more) =
      (firstUnregistered models names).or (firstUnregistered models more) :=
  List.find?_append

/-- A computation over the registered names that looks up the given names in order. Where it is
sound, nothing else can make it fail. -/
structure Consults {α : Type} (sound : Prop) (names : List String)
    (compute : List String → Report InvalidMapping α) : Prop where
  /-- All that matters is which of the names are registered. -/
  agrees : ∀ {models others : List String}, (∀ name ∈ names, name ∈ models ↔ name ∈ others) →
    (compute models).result = (compute others).result
  /-- Success means that all names are registered. -/
  registered : ∀ {models : List String} {value : α}, (compute models).result = .ok value →
    ∀ name ∈ names, name ∈ models
  /-- Failure is that of the first name that is not registered. -/
  unregistered : sound → ∀ {models : List String} {error : InvalidMapping},
    (compute models).result = .error error →
      ∃ name, firstUnregistered models names = some name ∧
        error = ⟨.ofText name, .unregisteredModel⟩

namespace Consults

variable {sound : Prop} {α β : Type} {names more : List String}

/-- Where nothing else can fail, a computation succeeds exactly when all names are registered. -/
theorem succeeds_iff {compute : List String → Report InvalidMapping α}
    (consults : Consults sound names compute) (holds : sound) (models : List String) :
    (compute models).Succeeds ↔ ∀ name ∈ names, name ∈ models := by
  constructor
  · rintro ⟨value, done⟩
    exact consults.registered done
  · intro all
    cases made : (compute models).result with
    | ok value => exact ⟨value, made⟩
    | error error =>
      obtain ⟨name, found, -⟩ := consults.unregistered holds made
      rw [firstUnregistered_eq_none.2 all] at found
      cases found

/-- Even where other things can fail, success is that all names are registered and that no other
thing fails: that the computation succeeds with just those names registered. -/
theorem succeeds_iff_and {compute : List String → Report InvalidMapping α}
    (consults : Consults sound names compute) (models : List String) :
    (compute models).Succeeds ↔ (∀ name ∈ names, name ∈ models) ∧ (compute names).Succeeds := by
  have same (all : ∀ name ∈ names, name ∈ models) :
      (compute models).result = (compute names).result :=
    consults.agrees fun name member => ⟨fun _ => member, fun _ => all name member⟩
  constructor
  · rintro ⟨value, done⟩
    have all := consults.registered done
    exact ⟨all, value, by rw [← same all, done]⟩
  · rintro ⟨all, value, done⟩
    exact ⟨value, by rw [same all, done]⟩

/-- Two registrations under which a computation succeeds give the same. -/
theorem eq_of_succeeds {compute : List String → Report InvalidMapping α}
    (consults : Consults sound names compute) {models others : List String}
    (first : (compute models).Succeeds) (second : (compute others).Succeeds) :
    (compute models).result = (compute others).result := by
  obtain ⟨value, done⟩ := first
  obtain ⟨other, made⟩ := second
  exact consults.agrees fun name member =>
    ⟨fun _ => consults.registered made name member, fun _ => consults.registered done name member⟩

/-- A computation whose outcome the registration has no part in looks up nothing. -/
theorem constant {compute : List String → Report InvalidMapping α}
    (same : ∀ models others, (compute models).result = (compute others).result)
    (succeeds : sound → ∀ models, (compute models).Succeeds) : Consults sound [] compute where
  agrees _ := same _ _
  registered _ _ member := absurd member List.not_mem_nil
  unregistered holds {models _} failed := by
    obtain ⟨value, done⟩ := succeeds holds models
    rw [done] at failed
    cases failed

/-- A computation that does not know the registration looks up nothing. -/
theorem report {report : Report InvalidMapping α} (succeeds : sound → report.Succeeds) :
    Consults sound [] fun _ => report :=
  constant (fun _ _ => rfl) fun holds _ => succeeds holds

/-- A value that is at hand looks up nothing. -/
theorem pure (value : α) : Consults sound [] fun _ => (Pure.pure value : Report InvalidMapping α) :=
  report fun _ => Report.succeeds_pure value

/-- One computation after another looks up the names of both. -/
theorem bind {first : List String → Report InvalidMapping α}
    {next : List String → α → Report InvalidMapping β} (head : Consults sound names first)
    (tail : ∀ value, Consults sound more (next · value)) :
    Consults sound (names ++ more) fun models => first models >>= next models where
  agrees {models others} agree := by
    have early := head.agrees fun name member => agree name (List.mem_append_left more member)
    rw [Report.result_bind, Report.result_bind, early]
    cases (first others).result with
    | error error => rfl
    | ok value =>
      exact (tail value).agrees fun name member => agree name (List.mem_append_right names member)
  registered {models last} done := by
    rw [Report.result_bind] at done
    cases started : (first models).result with
    | error error => rw [started] at done; cases done
    | ok value =>
      rw [started] at done
      intro name member
      rcases List.mem_append.1 member with early | late
      · exact head.registered started name early
      · exact (tail value).registered done name late
  unregistered holds {models error} failed := by
    rw [Report.result_bind] at failed
    rw [firstUnregistered_append]
    cases started : (first models).result with
    | error fault =>
      rw [started] at failed
      cases failed
      obtain ⟨name, found, told⟩ := head.unregistered holds started
      exact ⟨name, by rw [found]; rfl, told⟩
    | ok value =>
      rw [started] at failed
      rw [firstUnregistered_eq_none.2 (head.registered started)]
      exact (tail value).unregistered holds failed

/-- A computation followed by one that looks up nothing. -/
theorem andThen {first : List String → Report InvalidMapping α}
    {next : List String → α → Report InvalidMapping β} (head : Consults sound names first)
    (tail : ∀ value, Consults sound [] (next · value)) :
    Consults sound names fun models => first models >>= next models := by
  have both := head.bind tail
  rwa [List.append_nil] at both

/-- A computation followed by a step that cannot fail. -/
theorem map {compute : List String → Report InvalidMapping α} (f : α → β)
    (consults : Consults sound names compute) :
    Consults sound names fun models => f <$> compute models := by
  simp only [map_eq_pure_bind]
  exact consults.andThen fun value => Consults.pure (f value)

/-- A traversal looks up the names of its steps in order. -/
theorem mapM {step : List String → α → Report InvalidMapping β} {namesOf : α → List String}
    {items : List α} (steps : ∀ item ∈ items, Consults sound (namesOf item) (step · item)) :
    Consults sound (items.flatMap namesOf) fun models => items.mapM (step models) := by
  induction items with
  | nil => exact Consults.pure []
  | cons item rest ih =>
    simp only [List.mapM_cons, List.flatMap_cons]
    refine (steps item List.mem_cons_self).bind fun value => ?_
    exact (ih fun later member => steps later (List.mem_cons_of_mem item member)).andThen
      fun values => Consults.pure (value :: values)

/-- A traversal of which no step looks up anything. -/
theorem mapM_nil {step : List String → α → Report InvalidMapping β} {items : List α}
    (steps : ∀ item ∈ items, Consults sound [] (step · item)) :
    Consults sound [] fun models => items.mapM (step models) := by
  have all : Consults sound (items.flatMap fun _ => []) fun models => items.mapM (step models) :=
    Consults.mapM steps
  rwa [List.flatMap_eq_nil_iff.2 fun _ _ => rfl] at all

/-- Looking up the same names a second time is looking them up once. -/
theorem of_twice {compute : List String → Report InvalidMapping α}
    (twice : Consults sound (names ++ names) compute) : Consults sound names compute where
  agrees agree := twice.agrees fun name member =>
    agree name ((List.mem_append.1 member).elim id id)
  registered done name member := twice.registered done name (List.mem_append_left names member)
  unregistered holds {models error} failed := by
    obtain ⟨name, found, told⟩ := twice.unregistered holds failed
    rw [firstUnregistered_append, Option.or_self] at found
    exact ⟨name, found, told⟩

end Consults

end GoBindings
