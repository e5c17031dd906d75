/-!
# Computations that announce

Every correction that a rule makes is announced. A `Report` is the outcome of a computation together
with its announcements in order; those made before a failure stay made. Reports form a lawful monad,
so a rule reads as a sequence of steps.
-/

namespace GoBindings

/-- How grave an announcement is. -/
inductive Severity where
  /-- Something was corrected or doubtful. -/
  | warning
  /-- Something failed. -/
  | error
  deriving DecidableEq, Repr

/-- One announcement. -/
structure Notice where
  /-- How grave it is. -/
  severity : Severity
  /-- What it tells. -/
  text : String
  deriving DecidableEq, Repr

/-- The outcome of a computation and what it announced on the way, first announcement first. -/
structure Report (ε α : Type) where
  /-- The announcements in order. -/
  notices : List Notice
  /-- The outcome. -/
  result : Except ε α

namespace Report

variable {ε α β : Type}

/-- A warning. -/
def warn (text : String) : Report ε Unit := ⟨[⟨.warning, text⟩], .ok ()⟩

/-- A failure. -/
def fail (error : ε) : Report ε α := ⟨[], .error error⟩

/-- One computation after another; a failure ends it and keeps what was announced. -/
def andThen (first : Report ε α) (next : α → Report ε β) : Report ε β :=
  match first.result with
  | .error error => ⟨first.notices, .error error⟩
  | .ok value => ⟨first.notices ++ (next value).notices, (next value).result⟩

instance : Monad (Report ε) where
  pure value := ⟨[], .ok value⟩
  bind := andThen

/-- The computation with its failure turned into an outcome. -/
def attempt (report : Report ε α) : Report ε (Except ε α) := ⟨report.notices, .ok report.result⟩

/-- The computation with another kind of failure. -/
def mapError {ε' : Type} (f : ε → ε') (report : Report ε α) : Report ε' α :=
  ⟨report.notices, report.result.mapError f⟩

/-- Sequencing is one computation after another. -/
theorem bind_eq (first : Report ε α) (next : α → Report ε β) :
    first >>= next = first.andThen next := rfl

/-- The outcome of a sequence is the sequence of the outcomes. -/
@[simp] theorem result_bind (first : Report ε α) (next : α → Report ε β) :
    (first >>= next).result = first.result >>= fun value => (next value).result := by
  rw [bind_eq, andThen]
  cases first.result <;> rfl

/-- The outcome of a mapped computation is the mapped outcome. -/
@[simp] theorem result_map (f : α → β) (report : Report ε α) :
    (f <$> report).result = f <$> report.result := by
  rcases report with ⟨notices, result⟩
  cases result <;> rfl

instance : LawfulMonad (Report ε) := LawfulMonad.mk' (Report ε)
  (fun x => by
    rcases x with ⟨notices, result⟩
    cases result <;> simp [Functor.map, andThen])
  (fun _ _ => by simp [bind, andThen, pure])
  (fun x f g => by
    rcases x with ⟨notices, result⟩
    cases result with
    | error e => rfl
    | ok a =>
      simp only [bind, andThen]
      cases (f a).result <;> simp)

end Report

end GoBindings
