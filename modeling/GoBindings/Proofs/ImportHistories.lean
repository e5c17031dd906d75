import GoBindings.ImportHistory
import GoBindings.Proofs.Imports

/-!
# Import sets over histories

Import sets are ordered sets: told for the lists of their paths alone, a new path goes to the end, a
known one changes nothing, dropping takes a list apart, and an expansion puts the replacements one
after another and keeps the first of those that are the same. The main statement says that this is
what the steps of every history do and answer, whatever was done before, and that the sets that were
expanded on the way stay what they were.
-/

namespace GoBindings

namespace ImportSet

/-! ## First occurrences -/

/-- Where no two paths of a list are the same, the first occurrences in a longer list are that list
and the first occurrences of what is new behind it. What is added is looked through for each path of
the list in turn. -/
theorem eraseDups_append_of_distinct {kept : List Label}
    (distinct : kept.Pairwise fun a b => (a == b) = false) (added : List Label) :
    (kept ++ added).eraseDups =
      kept ++ (added.filter fun path => !kept.contains path).eraseDups := by
  induction kept generalizing added with
  | nil =>
    have all : added.filter (fun path => !([] : List Label).contains path) = added :=
      List.filter_eq_self.2 fun _ _ => rfl
    rw [all, List.nil_append, List.nil_append]
  | cons first rest ih =>
    obtain ⟨apart, later⟩ := List.pairwise_cons.1 distinct
    have unchanged : rest.filter (fun path => !path == first) = rest := by
      refine List.filter_eq_self.2 fun path member => ?_
      rw [BEq.symm_false (apart path member), Bool.not_false]
    have narrowed : (added.filter fun path => !path == first).filter
        (fun path => !rest.contains path) =
          added.filter fun path => !(first :: rest).contains path := by
      rw [List.filter_filter]
      refine List.filter_congr fun path _ => ?_
      rw [List.contains_cons, Bool.not_or, Bool.and_comm]
    rw [List.cons_append, List.eraseDups_cons, List.filter_append, unchanged, ih later, narrowed,
      List.cons_append]

/-- The paths of a set are all different, so each is its first occurrence. -/
theorem eraseDups_paths (imports : ImportSet) : imports.paths.eraseDups = imports.paths := by
  have whole := eraseDups_append_of_distinct imports.distinct []
  rwa [List.append_nil, List.filter_nil, List.eraseDups_nil, List.append_nil] at whole

/-- A new path goes to the end. -/
theorem paths_add_of_new {imports : ImportSet} {path : Label}
    (new : imports.contains path = false) : (imports.add path).paths = imports.paths ++ [path] := by
  simp [add, new]

/-- After several paths were added, the paths are the first occurrences of those before and the
added ones. A path that is known counts on neither side. -/
theorem paths_addAll (imports : ImportSet) (added : List Label) :
    (imports.addAll added).paths = (imports.paths ++ added).eraseDups := by
  induction added generalizing imports with
  | nil =>
    rw [List.append_nil, eraseDups_paths]
    rfl
  | cons path rest ih =>
    have step : imports.addAll (path :: rest) = (imports.add path).addAll rest := rfl
    rw [step, ih]
    cases known : imports.contains path with
    | true =>
      have dropped : (path :: rest).filter (fun other => !imports.paths.contains other) =
          rest.filter fun other => !imports.paths.contains other := by
        rw [contains] at known
        rw [List.filter_cons, known, Bool.not_true, if_neg Bool.false_ne_true]
      rw [add_of_contains imports known, eraseDups_append_of_distinct imports.distinct,
        eraseDups_append_of_distinct imports.distinct, dropped]
    | false => rw [paths_add_of_new known, List.append_assoc, List.singleton_append]

/-- The paths of the set of a list are the first occurrences in the list. -/
theorem paths_ofList (paths : List Label) : (ofList paths).paths = paths.eraseDups :=
  paths_addAll empty paths

/-! ## Starts -/

/-- Whether a path is a text that begins with a start other than the empty one. -/
def LiesUnder (start : String) (path : Label) : Prop :=
  start ≠ "" ∧ ∃ text, path = .ofText text ∧ start.toList <+: text.toList

/-- The test of a path against a start tells whether it lies under the start. -/
theorem isUnder_iff (start : String) (path : Label) :
    isUnder start path = true ↔ LiesUnder start path := by
  rw [isUnder, LiesUnder, Bool.and_eq_true, Bool.not_eq_true', String.isEmpty_eq_false_iff]
  refine and_congr_right fun _ => ?_
  constructor
  · intro begins
    obtain ⟨text, isText, starts⟩ := (Option.any_eq_true _ _).1 begins
    exact ⟨text, Label.eq_ofText_of_asText? isText, (Text.startsWith_iff start text).1 starts⟩
  · rintro ⟨text, rfl, starts⟩
    exact (Text.startsWith_iff start text).2 starts

end ImportSet

/-! ## Ordered sets -/

/-- A list taken apart by a property, each part in the order of the list. -/
structure IsSplit (Leaves : Label → Prop) (paths left kept : List Label) : Prop where
  /-- What leaves does so in its order. -/
  left_sublist : left.Sublist paths
  /-- What is kept stays in its order. -/
  kept_sublist : kept.Sublist paths
  /-- Nothing is lost and nothing is put in. -/
  perm : (left ++ kept).Perm paths
  /-- Only what has the property leaves. -/
  leaves : ∀ path ∈ left, Leaves path
  /-- All that has the property leaves. -/
  stays : ∀ path ∈ kept, ¬ Leaves path

/-- A list is taken apart by keeping the rest of it. -/
theorem isSplit_filter {Leaves : Label → Prop} {leaves : Label → Bool}
    (decides : ∀ path, leaves path = true ↔ Leaves path) (paths : List Label) :
    IsSplit Leaves paths (paths.filter leaves) (paths.filter (!leaves ·)) where
  left_sublist := List.filter_sublist
  kept_sublist := List.filter_sublist
  perm := List.filter_append_perm leaves paths
  leaves path member := (decides path).1 (List.mem_filter.1 member).2
  stays path member := by
    have remains : (!leaves path) = true := (List.mem_filter.1 member).2
    rw [Bool.not_eq_true'] at remains
    rw [← decides, remains]
    exact Bool.false_ne_true

/-- What is seen of a history: the paths of the set that is worked on, and the paths of the sets
that were expanded before. -/
structure ImportView where
  /-- The paths that are worked on. -/
  paths : List Label
  /-- The lists that were expanded, the latest first. -/
  expandedBefore : List (List Label)

namespace ImportView

/-- What a step does to an ordered set and what it answers. -/
inductive Takes : ImportView → ImportStep → ImportAnswer → ImportView → Prop where
  /-- A path that is not there goes to the end. -/
  | new {paths : List Label} {before : List (List Label)} {path : Label}
      (absent : ∀ other ∈ paths, (path == other) = false) :
      Takes ⟨paths, before⟩ (.add path) (.isNew true) ⟨paths ++ [path], before⟩
  /-- A path that is there changes nothing. -/
  | known {paths : List Label} {before : List (List Label)} {path : Label}
      (present : ∃ other ∈ paths, path == other) :
      Takes ⟨paths, before⟩ (.add path) (.isNew false) ⟨paths, before⟩
  /-- Of several paths the first occurrences of new ones go to the end. -/
  | addAll {paths added : List Label} {before : List (List Label)} :
      Takes ⟨paths, before⟩ (.addAll added) .nothing ⟨(paths ++ added).eraseDups, before⟩
  /-- The paths under a start are taken out and told. -/
  | dropUnder {paths left kept : List Label} {before : List (List Label)} {start : String}
      (split : IsSplit (ImportSet.LiesUnder start) paths left kept) :
      Takes ⟨paths, before⟩ (.dropUnder start) (.dropped left) ⟨kept, before⟩
  /-- Every path gives way to its replacements, or stays if it has none, once: of what there is then
  the first occurrences are gone on with, and what was expanded is left as it is. -/
  | expand {paths : List Label} {before : List (List Label)} {table : Table Label (List Label)} :
      Takes ⟨paths, before⟩ (.expand table) .nothing
        ⟨(paths.flatMap fun path => (table.find? path).getD [path]).eraseDups, paths :: before⟩

/-- What several steps do to an ordered set, each with its answer. -/
inductive TakesAll : ImportView → List (ImportStep × ImportAnswer) → ImportView → Prop where
  /-- Without a step all is as before. -/
  | nil {view : ImportView} : TakesAll view [] view
  /-- One step is taken before the others. -/
  | cons {view next last : ImportView} {step : ImportStep} {answer : ImportAnswer}
      {later : List (ImportStep × ImportAnswer)} (first : view.Takes step answer next)
      (others : next.TakesAll later last) : TakesAll view ((step, answer) :: later) last

end ImportView

/-! ## Histories -/

namespace ImportHistory

/-- What is seen of a history. -/
def view (history : ImportHistory) : ImportView :=
  ⟨history.current.paths, history.expandedBefore.map ImportSet.paths⟩

/-- A step of a history is one of an ordered set. -/
theorem takes_take (history : ImportHistory) (step : ImportStep) :
    history.view.Takes step (history.take step).1 (history.take step).2.view := by
  have seen (next : ImportSet) {paths : List Label} (holds : next.paths = paths) :
      ({ history with current := next } : ImportHistory).view =
        ⟨paths, history.view.expandedBefore⟩ := congrArg (ImportView.mk · _) holds
  cases step with
  | add path =>
    cases there : history.current.contains path with
    | true =>
      have present := List.contains_iff_exists_mem_beq.1 there
      have same := congrArg ImportSet.paths (ImportSet.add_of_contains _ there)
      rw [take, there, seen _ same]
      exact .known present
    | false =>
      have absent : ∀ other ∈ history.current.paths, (path == other) = false := by
        intro other member
        refine Bool.eq_false_iff.2 fun same => Bool.eq_false_iff.1 there ?_
        exact List.contains_iff_exists_mem_beq.2 ⟨other, member, same⟩
      rw [take, there, seen _ (ImportSet.paths_add_of_new there)]
      exact .new absent
  | addAll paths =>
    rw [take, seen _ (ImportSet.paths_addAll _ paths)]
    exact .addAll
  | dropUnder start => exact .dropUnder (isSplit_filter (ImportSet.isUnder_iff start) _)
  | expand table =>
    have replaced : (history.current.expanded table).paths = _ := ImportSet.paths_ofList _
    rw [take, view, view, replaced]
    exact .expand

/-- The steps of a history are those of an ordered set. -/
theorem takesAll_takeAll (history : ImportHistory) (steps : List ImportStep) :
    history.view.TakesAll (history.takeAll steps).1 (history.takeAll steps).2.view := by
  induction steps generalizing history with
  | nil => exact .nil
  | cons step rest ih => exact .cons (history.takes_take step) (ih (history.take step).2)

/-- Every step of a history is answered. -/
theorem map_fst_takeAll (history : ImportHistory) (steps : List ImportStep) :
    (history.takeAll steps).1.map Prod.fst = steps := by
  induction steps generalizing history with
  | nil => rfl
  | cons step rest ih => exact congrArg (step :: ·) (ih (history.take step).2)

/-- From every list on, whatever steps are taken, they are answered as those of an ordered set are
that begins with the first occurrences in the list, and do the same; and never are two paths the
same, nor are they in a set that was expanded on the way. -/
theorem takesAll_of_start (start : List Label) (steps : List ImportStep) :
    let history : ImportHistory := { current := .ofList start }
    (history.takeAll steps).1.map Prod.fst = steps ∧
      ImportView.TakesAll ⟨start.eraseDups, []⟩ (history.takeAll steps).1
        (history.takeAll steps).2.view ∧
      ∀ paths ∈ (history.takeAll steps).2.view.paths ::
        (history.takeAll steps).2.view.expandedBefore,
        paths.Pairwise fun a b => (a == b) = false := by
  intro history
  have started : history.view = ⟨start.eraseDups, []⟩ := by
    rw [view, ImportSet.paths_ofList]
    rfl
  refine ⟨history.map_fst_takeAll steps, started ▸ history.takesAll_takeAll steps, ?_⟩
  intro paths member
  rcases List.mem_cons.1 member with rfl | before
  · exact (history.takeAll steps).2.current.distinct
  · obtain ⟨imports, -, rfl⟩ := List.mem_map.1 before
    exact imports.distinct

/-- A replacement that has replacements itself is not replaced again, and one that is there already
does not come a second time. -/
example :
    let history : ImportHistory := { current := .ofList ["io", "time"] }
    let table : Table Label (List Label) := .ofList [("time", ["clock", "io"]), ("clock", ["os"])]
    (history.take (.expand table)).2.view.paths.map Label.text = ["io", "clock"] := by
  decide +kernel

end ImportHistory

end GoBindings
