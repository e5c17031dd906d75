import GoBindings.Report

/-!
# Success and failure of computations

Whether a computation succeeds, and with which failure it ends, can be told without its
announcements. A sequence succeeds where its steps do, and a traversal fails as its first step that
fails.
-/

namespace GoBindings

namespace Report

variable {ε α β : Type}

/-- A computation that does not fail. -/
def Succeeds (report : Report ε α) : Prop := ∃ value, report.result = .ok value

/-- A value that is at hand does not fail. -/
theorem succeeds_pure (value : α) : (pure value : Report ε α).Succeeds := ⟨value, rfl⟩

/-- One computation after another does not fail where neither does. -/
theorem Succeeds.bind {first : Report ε α} {next : α → Report ε β} (head : first.Succeeds)
    (tail : ∀ value, (next value).Succeeds) : (first >>= next).Succeeds := by
  obtain ⟨value, done⟩ := head
  obtain ⟨last, finished⟩ := tail value
  refine ⟨last, ?_⟩
  rw [result_bind, done]
  exact finished

/-- A mapped computation does not fail where the computation does not. -/
theorem Succeeds.map {report : Report ε α} (f : α → β) (succeeds : report.Succeeds) :
    (f <$> report).Succeeds := by
  obtain ⟨value, done⟩ := succeeds
  exact ⟨f value, by rw [result_map, done]; rfl⟩

/-- The failure of a computation, if it fails. -/
def fault? (report : Report ε α) : Option ε :=
  match report.result with
  | .ok _ => none
  | .error error => some error

/-- A computation without failure succeeds. -/
theorem fault?_eq_none {report : Report ε α} : report.fault? = none ↔ report.Succeeds := by
  rw [fault?, Succeeds]
  cases report.result <;> simp

/-- A failure that was turned into an outcome is none. -/
theorem fault?_attempt_bind (report : Report ε α) (next : Except ε α → Report ε β) :
    (report.attempt >>= next).fault? = (next report.result).fault? := rfl

/-- A last step that cannot fail leaves the failure. -/
theorem fault?_bind_pure (first : Report ε α) (f : α → β) :
    (first >>= fun value => pure (f value)).fault? = first.fault? := by
  rw [fault?, fault?, result_bind]
  cases first.result <;> rfl

/-- A traversal fails as its first failing step. -/
theorem fault?_mapM (f : α → Report ε β) (items : List α) :
    (items.mapM f).fault? = items.findSome? fun item => (f item).fault? := by
  induction items with
  | nil => rfl
  | cons item rest ih =>
    rw [List.mapM_cons, List.findSome?_cons, ← ih]
    simp only [fault?, result_bind]
    cases (f item).result with
    | error error => rfl
    | ok value => cases (rest.mapM f).result <;> rfl

/-- The outcome of a computation whose value is not used is told by its failure. -/
theorem result_discard (report : Report ε α) :
    (Functor.discard report).result = report.fault?.elim (.ok ()) .error := by
  rw [Functor.discard, Functor.mapConst, fault?]
  rcases report with ⟨notices, result⟩
  cases result <;> rfl

/-- A sequence gives a value where its first step gives one and the second then gives it. -/
theorem result_bind_eq_ok {first : Report ε α} {next : α → Report ε β} {last : β} :
    (first >>= next).result = .ok last ↔
      ∃ value, first.result = .ok value ∧ (next value).result = .ok last := by
  rw [result_bind]
  cases first.result with
  | error error =>
    refine ⟨fun done => ?_, fun ⟨_, started, _⟩ => ?_⟩
    · cases done
    · cases started
  | ok value =>
    refine ⟨fun done => ⟨value, rfl, done⟩, ?_⟩
    rintro ⟨other, started, done⟩
    rwa [← Except.ok.inj started] at done

/-- A sequence succeeds where its first step does and the second does after it. -/
theorem bind_succeeds_iff (first : Report ε α) (next : α → Report ε β) :
    (first >>= next).Succeeds ↔ ∃ value, first.result = .ok value ∧ (next value).Succeeds := by
  simp only [Succeeds, result_bind_eq_ok]
  rw [exists_comm]
  simp only [exists_and_left]

/-- A traversal succeeds where all its steps do. -/
theorem mapM_succeeds_iff (f : α → Report ε β) (items : List α) :
    (items.mapM f).Succeeds ↔ ∀ item ∈ items, (f item).Succeeds := by
  rw [← fault?_eq_none, fault?_mapM, List.findSome?_eq_none_iff]
  simp only [fault?_eq_none]

/-- A computation whose value is dropped succeeds where it does. -/
theorem discard_succeeds_iff (report : Report ε α) :
    (Functor.discard report).Succeeds ↔ report.Succeeds := by
  have unfailing : report.fault? = none ↔ report.Succeeds := fault?_eq_none
  rw [← unfailing, Succeeds, result_discard]
  cases report.fault? <;> simp

/-- The value of a computation that succeeds. -/
def value [Inhabited α] (report : Report ε α) : α :=
  match report.result with
  | .ok value => value
  | .error _ => default

/-- A computation that succeeds has its value as result. -/
theorem Succeeds.result_eq [Inhabited α] {report : Report ε α} (succeeds : report.Succeeds) :
    report.result = .ok report.value := by
  obtain ⟨value, done⟩ := succeeds
  rw [Report.value, done]

/-- A traversal gives what its steps give. -/
theorem result_mapM_of_results {f : α → Report ε β} {g : α → β} {items : List α}
    (each : ∀ item ∈ items, (f item).result = .ok (g item)) :
    (items.mapM f).result = .ok (items.map g) := by
  induction items with
  | nil => rfl
  | cons item rest ih =>
    have first := each item List.mem_cons_self
    have later := ih fun other member => each other (List.mem_cons_of_mem item member)
    rw [List.mapM_cons, result_bind, first]
    change (rest.mapM f >>= fun values => pure (g item :: values)).result = _
    rw [result_bind, later]
    rfl

/-- A traversal whose steps succeed gives the value of each. -/
theorem result_mapM [Inhabited β] {f : α → Report ε β} {items : List α}
    (succeed : ∀ item ∈ items, (f item).Succeeds) :
    (items.mapM f).result = .ok (items.map fun item => (f item).value) :=
  result_mapM_of_results fun item member => (succeed item member).result_eq

/-- Some value of a traversal has a property where some item has the one that stands for it. -/
theorem exists_mem_mapM {f : α → Report ε β} {items : List α} {values : List β}
    (done : (items.mapM f).result = .ok values) {P : β → Prop} {Q : α → Prop}
    (agree : ∀ item ∈ items, ∀ value, (f item).result = .ok value → (P value ↔ Q item)) :
    (∃ value ∈ values, P value) ↔ ∃ item ∈ items, Q item := by
  induction items generalizing values with
  | nil =>
    cases done
    simp
  | cons item rest ih =>
    rw [List.mapM_cons, result_bind_eq_ok] at done
    obtain ⟨first, started, later⟩ := done
    obtain ⟨others, finished, last⟩ := result_bind_eq_ok.1 later
    cases last
    have tail := ih finished fun other member => agree other (List.mem_cons_of_mem item member)
    simp only [List.mem_cons, exists_eq_or_imp, tail,
      agree item List.mem_cons_self first started]

/-- A traversal gives a value for each item. -/
theorem exists_of_mem_mapM {f : α → Report ε β} {items : List α} {values : List β}
    (done : (items.mapM f).result = .ok values) {item : α} (member : item ∈ items) :
    ∃ value ∈ values, (f item).result = .ok value := by
  induction items generalizing values with
  | nil => exact absurd member List.not_mem_nil
  | cons head rest ih =>
    rw [List.mapM_cons, result_bind_eq_ok] at done
    obtain ⟨first, started, later⟩ := done
    obtain ⟨others, finished, last⟩ := result_bind_eq_ok.1 later
    cases last
    rcases List.mem_cons.1 member with rfl | inRest
    · exact ⟨first, List.mem_cons_self, started⟩
    · obtain ⟨value, there, made⟩ := ih finished inRest
      exact ⟨value, List.mem_cons_of_mem first there, made⟩

/-- The values of a traversal show what each step lets its value show. -/
theorem map_eq_of_mapM {γ : Type} {f : α → Report ε β} {items : List α} {values : List β}
    (done : (items.mapM f).result = .ok values) {shown : β → γ} {seen : α → γ}
    (agree : ∀ item value, (f item).result = .ok value → shown value = seen item) :
    values.map shown = items.map seen := by
  induction items generalizing values with
  | nil =>
    cases done
    rfl
  | cons item rest ih =>
    rw [List.mapM_cons, result_bind_eq_ok] at done
    obtain ⟨first, started, later⟩ := done
    obtain ⟨others, finished, last⟩ := result_bind_eq_ok.1 later
    cases last
    rw [List.map_cons, List.map_cons, agree item first started, ih finished]

/-- A traversal gives nothing only for nothing. -/
theorem mapM_eq_nil {f : α → Report ε β} {items : List α} {values : List β}
    (done : (items.mapM f).result = .ok values) : values = [] ↔ items = [] := by
  have any := exists_mem_mapM done (P := fun _ => True) (Q := fun _ => True)
    fun _ _ _ _ => Iff.rfl
  simp only [and_true] at any
  rw [List.eq_nil_iff_forall_not_mem, List.eq_nil_iff_forall_not_mem, ← not_exists, ← not_exists,
    any]

/-- A value that is dropped may as well not be used. -/
theorem discard_bind (report : Report ε α) (next : Report ε β) :
    (Functor.discard report >>= fun _ => next) = report >>= fun _ => next := by
  rw [Functor.discard, map_const, Function.comp_apply, bind_map_left]

/-- Another kind of failure may be given to a sequence or to its steps. -/
theorem bind_mapError {ε' : Type} (f : ε → ε') (first : Report ε α) (next : α → Report ε β) :
    (first.mapError f >>= fun value => (next value).mapError f) =
      (first >>= next).mapError f := by
  rcases first with ⟨notices, result⟩
  cases result <;> rfl

/-- Another kind of failure may be given to a traversal or to its steps. -/
theorem mapM_mapError {ε' : Type} (f : ε → ε') (step : α → Report ε β) (items : List α) :
    (items.mapM fun item => (step item).mapError f) = (items.mapM step).mapError f := by
  induction items with
  | nil => rfl
  | cons item rest ih =>
    rw [List.mapM_cons, List.mapM_cons, ih, ← bind_mapError]
    congr 1
    funext value
    exact bind_mapError f (rest.mapM step) fun values => pure (value :: values)

end Report

end GoBindings
