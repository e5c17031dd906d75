import GoBindings.Proofs.Tables
import GoBindings.Registry

/-!
# Registrations

What becomes of a registry that is asked for one registration after another. Every alias belongs to
a registered language at all times, so a name is supported just where a class is found under it. A
refused registration leaves the registry as it was only where its class is refused: one that is
refused for an alias leaves its language behind. A new language is found under its own name unless
that name already is an alias.
-/

namespace GoBindings

/-- A request to register a class of generators for a language. -/
structure Registration where
  /-- The language as it is asked for. -/
  language : String
  /-- What is to be registered. -/
  generator : GeneratorClass
  /-- Further names for the language. -/
  aliases : List String := []
  /-- Whether what is registered already gives way. -/
  replace : Bool := false

namespace Registration

/-- The name under which the language is held. -/
def key (registration : Registration) : String := Text.lower registration.language

/-- The registration of the Go generator. -/
def go : Registration :=
  { language := "go", generator := { name := "GoCodegen" }, aliases := ["golang"] }

end Registration

namespace Registry

/-! ## What a registration does -/

section Steps

variable (registry : Registry)

/-- The registry after a registration was asked for, and why it was refused if it was. -/
def handle (registration : Registration) : Registry × Option RegistryError :=
  registry.register registration.language registration.generator registration.aliases
    registration.replace

/-- The registry with a class held for a language, whatever was held before. -/
def withClass (language : String) (generator : GeneratorClass) : Registry :=
  { registry with generators := registry.generators.insert language generator }

/-- A class that is held for a language is found there, and the others where they were. -/
theorem find?_withClass (language other : String) (generator : GeneratorClass) :
    (registry.withClass language generator).generators.find? other =
      if language = other then some generator else registry.generators.find? other := by
  rw [withClass, Table.find?_insert]
  simp only [beq_iff_eq]

/-- A language is registered once its class is held. -/
theorem contains_withClass (language : String) (generator : GeneratorClass) :
    (registry.withClass language generator).generators.contains language = true := by
  apply Table.contains_of_find?
  rw [find?_withClass, if_pos rfl]

/-- The registry with one alias given to a language, whatever it stood for before. -/
def withAlias (language name : String) : Registry :=
  { registry with aliases := registry.aliases.insert (Text.lower name) language }

/-- The registry with aliases given to a language, whatever they stood for before. -/
def withAliases (language : String) (names : List String) : Registry :=
  (registry.addAliases language true names).1

/-- The language needs no alias. -/
theorem withAliases_cons_self {language name : String} (own : Text.lower name = language)
    (rest : List String) :
    registry.withAliases language (name :: rest) = registry.withAliases language rest := by
  rw [withAliases, withAliases, addAliases, if_pos own]

/-- Aliases are given one after another. -/
theorem withAliases_cons {language name : String} (other : Text.lower name ≠ language)
    (rest : List String) :
    registry.withAliases language (name :: rest) =
      (registry.withAlias language name).withAliases language rest := by
  rw [withAliases, withAliases, addAliases, if_neg other]
  rfl

/-- Aliases leave the classes alone. -/
@[simp] theorem generators_withAliases (language : String) (names : List String) :
    (registry.withAliases language names).generators = registry.generators := by
  induction names generalizing registry with
  | nil => rfl
  | cons name rest ih =>
    by_cases own : Text.lower name = language
    · rw [withAliases_cons_self registry own, ih]
    · rw [withAliases_cons registry own, ih, withAlias]

/-- Given aliases stand for the language, and all others for what they stood for. -/
theorem find?_withAliases (language : String) (names : List String) (name : String) :
    (registry.withAliases language names).aliases.find? name =
      if name ≠ language ∧ name ∈ names.map Text.lower then some language
      else registry.aliases.find? name := by
  induction names generalizing registry with
  | nil => simp [withAliases, addAliases]
  | cons first rest ih =>
    by_cases own : Text.lower first = language
    · rw [withAliases_cons_self registry own, ih]
      grind
    · rw [withAliases_cons registry own, ih, withAlias, Table.find?_insert]
      grind

/-- The first name is refused, which happens only where what is registered does not give way, or
leaves a registry in which the others are given. -/
theorem addAliases_cons (language : String) (replace : Bool) (name : String)
    (rest : List String) :
    (∃ error, replace = false ∧ registry.aliasConflict language name = some error ∧
      registry.addAliases language replace (name :: rest) = (registry, some error)) ∨
    ∃ next : Registry,
      registry.addAliases language replace (name :: rest) = next.addAliases language replace rest ∧
      ∀ names, registry.withAliases language (name :: names) = next.withAliases language names := by
  rw [addAliases]
  by_cases own : Text.lower name = language
  · rw [if_pos own]
    exact .inr ⟨registry, rfl, registry.withAliases_cons_self own⟩
  · rw [if_neg own]
    cases tested : if replace then none else registry.aliasConflict language name with
    | some error =>
      cases replace with
      | true => cases tested
      | false => exact .inl ⟨error, rfl, tested, rfl⟩
    | none => exact .inr ⟨registry.withAlias language name, rfl, registry.withAliases_cons own⟩

/-- Aliases are all given, or the first that cannot be given is told and those before it are. -/
theorem addAliases_cases (language : String) (replace : Bool) (names : List String) :
    registry.addAliases language replace names = (registry.withAliases language names, none) ∨
      ∃ given name rest error, names = given ++ name :: rest ∧ replace = false ∧
        (registry.withAliases language given).aliasConflict language name = some error ∧
        registry.addAliases language replace names =
          (registry.withAliases language given, some error) := by
  induction names generalizing registry with
  | nil => exact .inl rfl
  | cons first later ih =>
    rcases registry.addAliases_cons language replace first later with
      ⟨error, kept, conflict, ends⟩ | ⟨next, goes, gives⟩
    · exact .inr ⟨[], first, later, error, rfl, kept, conflict, ends⟩
    · rw [goes, gives]
      rcases ih next with all | ⟨given, name, rest, error, parts, kept, conflict, ends⟩
      · exact .inl all
      · rw [← gives] at conflict ends
        exact .inr ⟨first :: given, name, rest, error, congrArg (first :: ·) parts, kept, conflict,
          ends⟩

end Steps

/-- What becomes of a registry that is asked for a registration, and why it is refused if it is. -/
inductive Handles (registry : Registry) (registration : Registration) :
    Registry × Option RegistryError → Prop
  /-- What makes no generators is refused. -/
  | notAGenerator (invalid : registration.generator.isGenerator = false) :
    Handles registry registration (registry, some .notAGenerator)
  /-- A language that is registered already is left alone unless it is to be replaced. -/
  | leftAlone (valid : registration.generator.isGenerator = true)
    (known : registry.generators.contains registration.key = true)
    (kept : registration.replace = false) :
    Handles registry registration (registry, none)
  /-- The class is held and all aliases are given. -/
  | accepted (valid : registration.generator.isGenerator = true)
    (free : registry.generators.contains registration.key = true → registration.replace = true) :
    Handles registry registration
      ((registry.withClass registration.key registration.generator).withAliases registration.key
        registration.aliases, none)
  /-- The class of a new language is held and aliases are given up to one that cannot be given. -/
  | refused (valid : registration.generator.isGenerator = true)
    (new : registry.generators.contains registration.key = false)
    (kept : registration.replace = false)
    {given rest : List String} {name : String} {error : RegistryError}
    (parts : registration.aliases = given ++ name :: rest)
    (conflict : ((registry.withClass registration.key registration.generator).withAliases
      registration.key given).aliasConflict registration.key name = some error) :
    Handles registry registration
      ((registry.withClass registration.key registration.generator).withAliases registration.key
        given, some error)

/-- Every registration is handled in one of these ways. -/
theorem handles (registry : Registry) (registration : Registration) :
    Handles registry registration (registry.handle registration) := by
  have steps : registry.handle registration =
      if !registration.generator.isGenerator then (registry, some .notAGenerator)
      else if registry.generators.contains registration.key && !registration.replace then
        (registry, none)
      else
        (registry.withClass registration.key registration.generator).addAliases registration.key
          registration.replace registration.aliases := rfl
  rw [steps]
  cases valid : registration.generator.isGenerator with
  | false => exact .notAGenerator valid
  | true =>
    rw [Bool.not_true, if_neg Bool.false_ne_true]
    by_cases left : (registry.generators.contains registration.key && !registration.replace) = true
    · obtain ⟨known, kept⟩ := Bool.and_eq_true_iff.1 left
      rw [if_pos left]
      exact .leftAlone valid known (Bool.not_eq_true' _ ▸ kept)
    · have free : registry.generators.contains registration.key = true →
          registration.replace = true := by simpa using left
      rw [if_neg left]
      rcases addAliases_cases (registry.withClass registration.key registration.generator)
          registration.key registration.replace registration.aliases with
        all | ⟨given, name, rest, error, parts, kept, conflict, ends⟩
      · rw [all]
        exact .accepted valid free
      · have new : registry.generators.contains registration.key = false := by
          rw [Bool.eq_false_iff]
          intro known
          rw [free known] at kept
          cases kept
        rw [ends]
        exact .refused valid new kept parts conflict

/-- The registry after registrations were asked for one after another, refused ones included. -/
def after (registry : Registry) (history : List Registration) : Registry :=
  history.foldl (fun current registration => (current.handle registration).1) registry

/-! ## Aliases belong to registered languages -/

/-- Every alias stands for a registered language. -/
def AliasesRegistered (registry : Registry) : Prop :=
  ∀ name language, registry.aliases.find? name = some language →
    registry.generators.contains language = true

/-- With a further class every alias still stands for a registered language. -/
theorem AliasesRegistered.withClass {registry : Registry} (sound : registry.AliasesRegistered)
    (language : String) (generator : GeneratorClass) :
    (registry.withClass language generator).AliasesRegistered := by
  intro name owner found
  have before := sound name owner found
  rw [Table.contains] at before ⊢
  rw [find?_withClass]
  split
  · rfl
  · exact before

/-- Aliases of a registered language may be given to it. -/
theorem AliasesRegistered.withAliases {registry : Registry} (sound : registry.AliasesRegistered)
    {language : String} (known : registry.generators.contains language = true)
    (names : List String) : (registry.withAliases language names).AliasesRegistered := by
  intro name owner found
  rw [generators_withAliases]
  rw [find?_withAliases] at found
  split at found
  · cases found
    exact known
  · exact sound name owner found

/-- A registration keeps every alias at a registered language, whether it is refused or not. -/
theorem AliasesRegistered.handle {registry : Registry} (sound : registry.AliasesRegistered)
    (registration : Registration) : (registry.handle registration).1.AliasesRegistered := by
  have held := contains_withClass registry registration.key registration.generator
  have classes := sound.withClass registration.key registration.generator
  have ways := registry.handles registration
  generalize registry.handle registration = result at ways ⊢
  cases ways with
  | notAGenerator => exact sound
  | leftAlone => exact sound
  | accepted => exact classes.withAliases held registration.aliases
  | refused => exact classes.withAliases held _

/-- Any registrations keep every alias at a registered language. -/
theorem AliasesRegistered.after {registry : Registry} (sound : registry.AliasesRegistered)
    (history : List Registration) : (registry.after history).AliasesRegistered := by
  induction history generalizing registry with
  | nil => exact sound
  | cons registration rest ih => exact ih (sound.handle registration)

/-- A registry without generators has no aliases. -/
theorem aliasesRegistered_empty : empty.AliasesRegistered := by
  intro name language found
  cases found

/-- A class is found under a name where the language is registered that the name stands for. -/
theorem generatorClass_eq_ok_iff {registry : Registry} {name : String}
    {generator : GeneratorClass} :
    registry.generatorClass name = .ok generator ↔
      registry.generators.find? (registry.languageOf name) = some generator := by
  rw [generatorClass]
  cases registry.generators.find? (registry.languageOf name) <;> simp

/-- Where every alias stands for a registered language, just the supported names have a class. -/
theorem AliasesRegistered.isSupported_iff {registry : Registry}
    (sound : registry.AliasesRegistered) (name : String) :
    registry.isSupported name = true ↔
      ∃ generator, registry.generatorClass name = .ok generator := by
  simp only [generatorClass_eq_ok_iff]
  rw [← Option.isSome_iff_exists, ← Table.contains, isSupported, languageOf, Bool.or_eq_true]
  cases found : registry.aliases.find? (Text.lower name) with
  | none =>
    rw [Table.contains_eq_false_iff.2 found, Option.getD_none, or_iff_left Bool.false_ne_true]
  | some language =>
    rw [Table.contains_of_find? found, Option.getD_some, sound _ _ found,
      or_iff_right_of_imp fun _ => rfl]

/-- After any registrations, refused ones included, every alias stands for a registered language,
and a name is supported just where a class is found under it. -/
theorem lookups_never_dangle (history : List Registration) :
    (∀ name language, (empty.after history).aliases.find? name = some language →
      (empty.after history).generators.contains language = true) ∧
    ∀ name, (empty.after history).isSupported name = true ↔
      ∃ generator, (empty.after history).generatorClass name = .ok generator := by
  have sound := aliasesRegistered_empty.after history
  exact ⟨sound, sound.isSupported_iff⟩

/-! ## Refused registrations -/

/-- Registries with the same languages, the same class for each of them, and the same aliases. -/
structure SameAs (registry other : Registry) : Prop where
  /-- Each language has the same class or none. -/
  classes : ∀ language, registry.generators.find? language = other.generators.find? language
  /-- Each alias stands for the same language. -/
  aliases : ∀ name, registry.aliases.find? name = other.aliases.find? name

/-- A refused registration leaves the registry as it was just where its class is refused. Otherwise
the language was new, and its class is held. -/
theorem refused_leaves_same_iff (registry : Registry) (registration : Registration)
    {error : RegistryError} (refused : (registry.handle registration).2 = some error) :
    (registry.handle registration).1.SameAs registry ↔
      registration.generator.isGenerator = false := by
  have ways := registry.handles registration
  generalize registry.handle registration = result at refused ways ⊢
  cases ways with
  | notAGenerator invalid => exact ⟨fun _ => invalid, fun _ => ⟨fun _ => rfl, fun _ => rfl⟩⟩
  | leftAlone => cases refused
  | accepted => cases refused
  | refused valid new =>
    refine iff_of_false (fun same => ?_) (Bool.not_eq_false _ ▸ valid)
    have left := same.classes registration.key
    rw [generators_withAliases, find?_withClass, if_pos rfl] at left
    rw [Table.contains, ← left] at new
    cases new

/-- A class that makes no generators is refused and leaves the registry as it was. -/
theorem invalid_class_leaves_same :
    let registry := empty.after [.go]
    let text : Registration :=
      { language := "text", generator := { name := "str", isGenerator := false }, replace := true }
    (registry.handle text).2 = some .notAGenerator ∧
      (registry.handle text).1.SameAs registry := by
  intro registry text
  have refused : (registry.handle text).2 = some .notAGenerator := rfl
  exact ⟨refused, (refused_leaves_same_iff registry text refused).2 rfl⟩

/-- A language that was refused for its second alias stays, and so does its first alias. -/
theorem refused_language_stays :
    let registry := empty.after [.go]
    let gopher : Registration :=
      { language := "gopher", generator := { name := "OtherCodegen" },
        aliases := ["burrow", "golang"] }
    let left := (registry.handle gopher).1
    (registry.handle gopher).2 = some (.aliasTaken "golang" "go") ∧
      registry.generators.find? "gopher" = none ∧
      left.generators.find? "gopher" = some { name := "OtherCodegen" } ∧
      registry.aliases.find? "burrow" = none ∧
      left.aliases.find? "burrow" = some "gopher" ∧
      ¬ left.SameAs registry := by
  intro registry gopher left
  have refused : (registry.handle gopher).2 = some (.aliasTaken "golang" "go") := by
    decide +kernel
  have new : registry.generators.find? "gopher" = none := rfl
  have stays : left.generators.find? "gopher" = some { name := "OtherCodegen" } := by
    decide +kernel
  have given : left.aliases.find? "burrow" = some "gopher" := by decide +kernel
  refine ⟨refused, new, stays, rfl, given, fun same => ?_⟩
  have changed := same.classes "gopher"
  rw [stays, new] at changed
  cases changed

/-! ## Lookup of a new language -/

/-- An accepted registration leaves open no other language for its name than before. -/
theorem languageOf_accepted (registry : Registry) (registration : Registration) :
    ((registry.withClass registration.key registration.generator).withAliases registration.key
      registration.aliases).languageOf registration.language =
        registry.languageOf registration.language := by
  rw [languageOf, languageOf, ← Registration.key, find?_withAliases,
    if_neg fun given => absurd rfl given.1]
  rfl

/-- A class that is held for a new language is found under its name just where the name is no alias,
or one under which the same class is found. The owner of an alias is registered, so it is another
language than the new one. -/
theorem AliasesRegistered.found_accepted_iff {registry : Registry}
    (sound : registry.AliasesRegistered) {registration : Registration}
    (new : registry.generators.contains registration.key = false) :
    ((registry.withClass registration.key registration.generator).withAliases registration.key
      registration.aliases).generatorClass registration.language = .ok registration.generator ↔
        registry.aliases.contains registration.key = false ∨
          registry.generatorClass registration.language = .ok registration.generator := by
  rw [generatorClass_eq_ok_iff, generatorClass_eq_ok_iff, languageOf_accepted,
    generators_withAliases, find?_withClass, languageOf, ← Registration.key]
  cases found : registry.aliases.find? registration.key with
  | none =>
    rw [Option.getD_none, if_pos rfl, Table.contains_eq_false_iff.2 found]
    exact iff_of_true rfl (.inl rfl)
  | some owner =>
    have apart : registration.key ≠ owner := by
      intro same
      rw [same, sound _ _ found] at new
      cases new
    rw [Option.getD_some, if_neg apart, Table.contains_of_find? found,
      or_iff_right Bool.true_eq_false.mp]

/-- A new language that was accepted is found under its own name just where the name was no alias,
or was one under which the same class was found. -/
theorem found_under_own_name_iff (history : List Registration) (registration : Registration)
    (new : (empty.after history).generators.contains registration.key = false)
    (accepted : ((empty.after history).handle registration).2 = none) :
    ((empty.after history).handle registration).1.generatorClass registration.language =
        .ok registration.generator ↔
      (empty.after history).aliases.contains registration.key = false ∨
        (empty.after history).generatorClass registration.language =
          .ok registration.generator := by
  have sound := aliasesRegistered_empty.after history
  have ways := (empty.after history).handles registration
  generalize (empty.after history).handle registration = result at accepted ways ⊢
  cases ways with
  | notAGenerator => cases accepted
  | leftAlone _ known => exact absurd (known.symm.trans new) Bool.true_eq_false.mp
  | accepted => exact sound.found_accepted_iff new
  | refused => cases accepted

/-- A new language whose name is no alias is found under its name. -/
theorem new_language_found :
    let history : List Registration := [.go]
    let rust : Registration :=
      { language := "Rust", generator := { name := "OtherCodegen" }, aliases := ["rs", "RUST"] }
    let left := ((empty.after history).handle rust).1
    (empty.after history).generators.contains rust.key = false ∧
      ((empty.after history).handle rust).2 = none ∧
      left.generatorClass "Rust" = .ok { name := "OtherCodegen" } := by
  intro history rust left
  have new : (empty.after history).generators.contains rust.key = false := by decide +kernel
  have accepted : ((empty.after history).handle rust).2 = none := by decide +kernel
  have noAlias : (empty.after history).aliases.contains rust.key = false := by decide +kernel
  exact ⟨new, accepted, (found_under_own_name_iff history rust new accepted).2 (.inl noAlias)⟩

/-- A new language whose name is an alias of another one is accepted, and under its name the class
of the other one is found. -/
theorem language_hidden_by_alias :
    let history : List Registration := [.go]
    let golang : Registration := { language := "golang", generator := { name := "OtherCodegen" } }
    let left := ((empty.after history).handle golang).1
    (empty.after history).generators.contains golang.key = false ∧
      ((empty.after history).handle golang).2 = none ∧
      left.generatorClass "golang" = .ok { name := "GoCodegen" } ∧
      left.generatorClass "golang" ≠ .ok { name := "OtherCodegen" } := by
  intro history golang left
  have hidden : left.generatorClass "golang" = .ok { name := "GoCodegen" } :=
    generatorClass_eq_ok_iff.2 (by decide +kernel)
  refine ⟨by decide +kernel, by decide +kernel, hidden, ?_⟩
  rw [hidden]
  simp

end Registry

end GoBindings
