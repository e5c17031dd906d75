import GoBindings.Proofs.Json.RoundTrip
import GoBindings.Settings.Writing

/-!
# Tables in saved files

A table is saved as an object, so its keys are saved by their names, and it is read from this object
with these names as keys. Keys that have one name become one. What is read back is the table that
was saved just where all its keys were texts.
-/

namespace GoBindings

namespace Label

/-- The name of a text is the text. -/
@[simp] theorem memberName_ofText (text : String) : (ofText text).memberName = text := rfl

/-- A label that is a text is the label of its name. -/
theorem ofText_memberName {label : Label} (isText : label.asText?.isSome) :
    ofText label.memberName = label := by
  obtain ⟨text, known⟩ := Option.isSome_iff_exists.1 isText
  rw [eq_ofText_of_asText? known, memberName_ofText]

end Label

namespace Table

variable {α β : Type}

/-- Mapping the values of pairs maps those of their table. -/
theorem ofList_map {κ : Type} [BEq κ] (f : α → β) (pairs : List (κ × α)) :
    ofList (pairs.map fun pair => (pair.1, f pair.2)) = (ofList pairs).map f := by
  have put (key : κ) (value : α) (entries : List (κ × α)) :
      putEntry key (f value) (entries.map fun entry => (entry.1, f entry.2)) =
        (putEntry key value entries).map fun entry => (entry.1, f entry.2) := by
    induction entries with
    | nil => rfl
    | cons entry rest ih =>
      rw [List.map_cons, putEntry, putEntry, ih]
      split
      · rfl
      · rfl
  have entered (table : Table κ α) :
      (table.map f).insertMany (pairs.map fun pair => (pair.1, f pair.2)) =
        (table.insertMany pairs).map f := by
    induction pairs generalizing table with
    | nil => rfl
    | cons pair rest ih =>
      have step : (table.map f).insert pair.1 (f pair.2) = (table.insert pair.1 pair.2).map f :=
        eq_of_entries (put pair.1 pair.2 table.entries)
      have first : (table.map f).insertMany ((pair :: rest).map fun pair => (pair.1, f pair.2)) =
          ((table.map f).insert pair.1 (f pair.2)).insertMany
            (rest.map fun pair => (pair.1, f pair.2)) := rfl
      rw [first, step, ih]
      rfl
  exact entered empty

/-- A table with the names of its keys as keys; of keys with one name the first place and the last
value remain. -/
def named (table : Table Label α) : Table String α :=
  ofList (table.entries.map fun entry => (entry.1.memberName, entry.2))

/-- A table as it is read back: the keys are the texts that name them. -/
def retold (table : Table Label α) : Table Label α :=
  ofList (table.named.entries.map fun entry => (.ofText entry.1, entry.2))

/-- Different texts are different labels. -/
theorem entries_ofList_ofText (f : α → β) (table : Table String α) :
    (ofList (table.entries.map fun entry => (Label.ofText entry.1, f entry.2))).entries =
      table.entries.map fun entry => (Label.ofText entry.1, f entry.2) := by
  refine entries_ofList ?_
  rw [List.map_map, List.pairwise_map]
  have distinct := table.distinct_keys
  rw [List.pairwise_map] at distinct
  exact distinct.imp fun apart => (Label.ofText_beq_ofText _ _).trans apart

/-- The keys of a table that was read back are the names that were saved. -/
theorem entries_retold (table : Table Label α) :
    table.retold.entries = table.named.entries.map fun entry => (.ofText entry.1, entry.2) :=
  entries_ofList_ofText id table.named

/-- A table is read back as it was saved just where all its keys are texts. -/
theorem retold_eq_iff {table : Table Label α} :
    table.retold = table ↔ ∀ key ∈ table.keys, key.asText?.isSome := by
  constructor
  · intro same key member
    rw [← same, keys, entries_retold, List.map_map] at member
    obtain ⟨entry, -, rfl⟩ := List.mem_map.1 member
    rfl
  · intro texts
    have own : table.entries.map (fun entry => (Label.ofText entry.1.memberName, entry.2)) =
        table.entries := by
      rw [List.map_congr_left fun entry member => by
        rw [Label.ofText_memberName (texts entry.1 (List.mem_map_of_mem member))], List.map_id']
    have apart : ((table.entries.map fun entry => (entry.1.memberName, entry.2)).map
        Prod.fst).Pairwise fun a b => (a == b) = false := by
      have distinct := table.distinct_keys
      rw [← own, List.map_map, List.pairwise_map] at distinct
      rw [List.map_map, List.pairwise_map]
      exact distinct.imp fun apart => (Label.ofText_beq_ofText _ _).symm.trans apart
    refine eq_of_entries ?_
    rw [entries_retold, named, entries_ofList apart, List.map_map]
    exact own

/-- What is found under a text in a table that was read back was saved under a key of that name. -/
theorem exists_of_find?_retold {table : Table Label α} {name : String} {value : α}
    (found : table.retold.find? (.ofText name) = some value) :
    ∃ key, (key, value) ∈ table.entries ∧ key.memberName = name := by
  rw [find?, entries_retold] at found
  obtain ⟨label, member, same⟩ := exists_of_findEntry found
  obtain ⟨⟨other, kept⟩, there, pair⟩ := List.mem_map.1 member
  cases pair
  rw [Label.ofText_beq_ofText, beq_iff_eq] at same
  subst same
  rcases exists_of_find?_insertMany (find?_of_mem there) with ⟨k, pair, alike⟩ | nothing
  · obtain ⟨⟨key, given⟩, saved, renamed⟩ := List.mem_map.1 pair
    cases renamed
    exact ⟨key, saved, beq_iff_eq.1 alike⟩
  · cases nothing

end Table

namespace Json

/-- A table is merged by merging its values under the names of its keys. -/
theorem merged_ofTable (table : Table Label Json) :
    (ofTable table).merged = .object (table.map merged).named.entries := by
  have members : mergedMembers (table.entries.map fun entry => (entry.1.memberName, entry.2)) =
      (table.map merged).entries.map fun entry => (entry.1.memberName, entry.2) := by
    rw [mergedMembers_eq_map, Table.entries_map, List.map_map, List.map_map]
    rfl
  rw [ofTable, merged]
  exact congrArg (fun members => Json.object (Table.ofList members).entries) members

/-- The table of a value that is not blank has its members with their values read. -/
theorem table?_of_not_isBlank {α : Type} (read : Json → Option α) {value : Json}
    (solid : value.isBlank = false) :
    value.table? read = value.members?.bind fun members =>
      ((Table.ofList members).entries.mapM fun entry => (read entry.2).map (entry.1, ·)).bind
        fun entries => some (Table.ofList entries) := by
  rw [table?, solid]
  rfl

/-- A table is read from an object whose values are read. -/
theorem table?_object {α : Type} {read : Json → Option α} (give : α → Json)
    (reads : ∀ value, read (give value) = some value) (table : Table String α) :
    (Json.object (table.entries.map fun entry => (entry.1, give entry.2))).table? read =
      some (Table.ofList (table.entries.map fun entry => (.ofText entry.1, entry.2))) := by
  have members : (Json.object (table.entries.map fun entry => (entry.1, give entry.2))).members? =
      some (table.entries.map fun entry => (.ofText entry.1, give entry.2)) := by
    rw [members?, List.map_map]
    rfl
  have each : (Table.ofList
      (table.entries.map fun entry => (Label.ofText entry.1, give entry.2))).entries.mapM
        (fun entry => (read entry.2).map (entry.1, ·)) =
      some (table.entries.map fun entry => (.ofText entry.1, entry.2)) := by
    rw [Table.entries_ofList_ofText, List.mapM_map]
    have step : ((fun entry : Label × Json => (read entry.2).map (entry.1, ·)) ∘
        fun entry : String × α => (Label.ofText entry.1, give entry.2)) =
        fun entry => pure (Label.ofText entry.1, entry.2) := by
      funext entry
      exact congrArg (Option.map (Label.ofText entry.1, ·)) (reads entry.2)
    rw [step]
    exact List.mapM_pure
  cases entries : table.entries with
  | nil => rfl
  | cons entry rest =>
    rw [← entries, table?_of_not_isBlank, members, Option.bind_some, each, Option.bind_some]
    rw [entries]
    rfl

/-- A saved table is read as it is read back. -/
theorem table?_merged_ofTable {α : Type} {read : Json → Option α} (give : α → Json)
    (reads : ∀ value, read (give value) = some value) {table : Table Label α}
    (stable : ∀ value ∈ table.values, (give value).merged = give value) :
    (ofTable (table.map give)).merged.table? read = some table.retold := by
  have kept : (table.map give).map merged = table.map give := by
    refine Table.eq_of_entries ?_
    rw [Table.entries_map, Table.entries_map, List.map_map]
    exact List.map_congr_left fun entry member => by
      rw [Function.comp_apply, stable entry.2 (List.mem_map_of_mem member)]
  have names : (table.map give).named = table.named.map give := by
    rw [Table.named, Table.named, ← Table.ofList_map, Table.entries_map, List.map_map, List.map_map]
    rfl
  rw [merged_ofTable, kept, names]
  exact table?_object give reads table.named

end Json

end GoBindings
