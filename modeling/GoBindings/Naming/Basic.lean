import GoBindings.GoWords
import GoBindings.Naming.Override
import GoBindings.Naming.ReservedWords
import GoBindings.Report
import GoBindings.Settings.Basic

/-!
# Naming

A naming is what every rule for names depends on: the settings and the reserved words built from
them. A rule computes a name and announces each correction; before it runs, a table of overrides is
asked.
-/

namespace GoBindings

/-- A computed name, a text or a label, and the corrections announced on the way. -/
structure Named (α : Type) where
  /-- The name. -/
  name : α
  /-- The announcements in order. -/
  notices : List Notice := []
  deriving Repr

namespace Named

variable {ε α β : Type}

/-- A name that needed no correction. -/
def kept (name : α) : Named α := ⟨name, []⟩

/-- A name that replaces another, with a warning that tells so. -/
def corrected (name : α) (warning : String) : Named α := ⟨name, [⟨.warning, warning⟩]⟩

/-- The name changed further without an announcement. -/
def map (f : α → β) (named : Named α) : Named β := ⟨f named.name, named.notices⟩

/-- The name as the outcome of a computation that cannot fail. -/
def report (named : Named α) : Report ε α := ⟨named.notices, .ok named.name⟩

/-- A name is the outcome of its report. -/
@[simp] theorem result_report (named : Named α) :
    (named.report : Report ε α).result = .ok named.name := rfl

/-- A report of a name announces what the name announces. -/
@[simp] theorem notices_report (named : Named α) :
    (named.report : Report ε α).notices = named.notices := rfl

/-- A name that is a text as a label. -/
def label (named : Named String) : Report ε Label := (named.map Label.ofText).report

/-- The label of a name is its text. -/
@[simp] theorem result_label (named : Named String) :
    (named.label : Report ε Label).result = .ok (.ofText named.name) := rfl

end Named

/-- What the naming rules depend on. -/
structure Naming where
  /-- The settings of the run. -/
  settings : Settings
  /-- The words that cannot serve as names. -/
  reserved : ReservedWords

/-- The reserved words of Go together with those of the settings. -/
def ReservedWords.ofSettings (settings : Settings) : Except ReservedWordsError ReservedWords :=
  ReservedWords.build (GoWords.reserved ++ settings.extraReservedWords.map Label.text)
    settings.reservedWordsMapping

/-- The reserved words of Go. -/
def ReservedWords.go : Except ReservedWordsError ReservedWords :=
  ReservedWords.build GoWords.reserved

namespace Naming

/-- The naming under some settings. -/
def ofSettings (settings : Settings) : Except ReservedWordsError Naming :=
  (ReservedWords.ofSettings settings).map fun reserved => ⟨settings, reserved⟩

/-- Settings whose words are accepted make a naming. -/
theorem ofSettings_of_reserved {settings : Settings} {reserved : ReservedWords}
    (built : ReservedWords.ofSettings settings = .ok reserved) :
    ofSettings settings = .ok ⟨settings, reserved⟩ := by
  rw [ofSettings, built]
  rfl

/-- A naming is made of its settings and the words that they reserve. -/
theorem exists_of_ofSettings {settings : Settings} {naming : Naming}
    (accepted : ofSettings settings = .ok naming) :
    ∃ reserved, ReservedWords.ofSettings settings = .ok reserved ∧
      naming = ⟨settings, reserved⟩ := by
  rw [ofSettings] at accepted
  cases built : ReservedWords.ofSettings settings with
  | error refusal =>
    rw [built] at accepted
    cases accepted
  | ok reserved =>
    rw [built] at accepted
    cases accepted
    exact ⟨reserved, rfl, rfl⟩

/-- The override of a name where the table has one, and else the computed name. -/
def overriddenBy (table : Table Label Label) (raw : String)
    (computed : Report InvalidMapping Label) : Report InvalidMapping Label :=
  match lookupOverride table raw with
  | .error error => .fail error
  | .ok (some name) => pure name
  | .ok none => computed

/-- Without overrides the computed name stands. -/
@[simp] theorem overriddenBy_empty (raw : String) (computed : Report InvalidMapping Label) :
    overriddenBy Table.empty raw computed = computed := rfl

end Naming

end GoBindings
