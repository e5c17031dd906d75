import GoBindings.Table

/-!
# Laws of ordered tables

Keys that are not there yet are entered at the end, so a table of pairs with different keys holds
just these pairs. What is found under a key after several pairs were entered is the last value
entered for it, or what was found before.
-/

namespace GoBindings

universe u v w

section Entries

variable {κ : Type u} [BEq κ] {α : Type v}

/-- What is found under a key was entered for the same one. -/
theorem exists_of_findEntry {key : κ} {value : α} {entries : List (κ × α)}
    (found : findEntry key entries = some value) : ∃ k, (k, value) ∈ entries ∧ k == key := by
  induction entries with
  | nil => cases found
  | cons entry rest ih =>
    obtain ⟨k, old⟩ := entry
    rw [findEntry] at found
    split at found
    · rename_i same
      cases found
      exact ⟨k, List.mem_cons_self, same⟩
    · obtain ⟨other, member, same⟩ := ih found
      exact ⟨other, List.mem_cons_of_mem _ member, same⟩

/-- Keys that are the same have one value. -/
theorem findEntry_congr [EquivBEq κ] {key other : κ} (same : key == other)
    (entries : List (κ × α)) : findEntry key entries = findEntry other entries := by
  induction entries with
  | nil => rfl
  | cons entry rest ih =>
    obtain ⟨k, value⟩ := entry
    have agree : (k == key) = (k == other) := BEq.congr_right same
    rw [findEntry, findEntry, agree, ih]

/-- Nothing is found under a key that was not entered. -/
theorem findEntry_eq_none {key : κ} {entries : List (κ × α)}
    (absent : ∀ entry ∈ entries, (entry.1 == key) = false) : findEntry key entries = none := by
  cases found : findEntry key entries with
  | none => rfl
  | some value =>
    obtain ⟨k, member, same⟩ := exists_of_findEntry found
    rw [absent (k, value) member] at same
    cases same

/-- Of different keys each has its own value. -/
theorem findEntry_of_mem [EquivBEq κ] {key : κ} {value : α} {entries : List (κ × α)}
    (distinct : (entries.map Prod.fst).Pairwise fun a b => (a == b) = false)
    (member : (key, value) ∈ entries) : findEntry key entries = some value := by
  induction entries with
  | nil => cases member
  | cons entry rest ih =>
    obtain ⟨k, old⟩ := entry
    rw [List.map_cons, List.pairwise_cons] at distinct
    rw [findEntry]
    rcases List.mem_cons.1 member with first | later
    · cases first
      rw [if_pos BEq.rfl]
    · have other := distinct.1 key (List.mem_map_of_mem later)
      rw [if_neg (Bool.not_eq_true _ ▸ other), ih distinct.2 later]

/-- Under a key all of whose entries are kept the same is found. -/
theorem findEntry_filter {key : κ} {keep : κ × α → Bool} {entries : List (κ × α)}
    (kept : ∀ entry ∈ entries, entry.1 == key → keep entry) :
    findEntry key (entries.filter keep) = findEntry key entries := by
  induction entries with
  | nil => rfl
  | cons entry rest ih =>
    obtain ⟨first, later⟩ := List.forall_mem_cons.1 kept
    rw [findEntry]
    by_cases same : entry.1 == key
    · rw [List.filter_cons_of_pos (first same), findEntry, if_pos same, if_pos same]
    · rw [if_neg same, ← ih later]
      by_cases stays : keep entry
      · rw [List.filter_cons_of_pos stays, findEntry, if_neg same]
      · rw [List.filter_cons_of_neg stays]

/-- A key that is not there is entered at the end. -/
theorem putEntry_of_absent {key : κ} {value : α} {entries : List (κ × α)}
    (absent : ∀ entry ∈ entries, (entry.1 == key) = false) :
    putEntry key value entries = entries ++ [(key, value)] := by
  induction entries with
  | nil => rfl
  | cons entry rest ih =>
    obtain ⟨other, later⟩ := List.forall_mem_cons.1 absent
    rw [putEntry, other, ih later]
    rfl

end Entries

namespace Table

variable {κ : Type u} [BEq κ] {α : Type v}

/-- Tables with the same entries are the same. -/
theorem eq_of_entries {table other : Table κ α} (same : table.entries = other.entries) :
    table = other := by
  cases table
  cases other
  cases same
  rfl

/-- A key under which something is found has a value. -/
theorem contains_of_find? {table : Table κ α} {key : κ} {value : α}
    (found : table.find? key = some value) : table.contains key = true := by
  rw [contains, found]
  rfl

/-- A key has no value where nothing is found under it. -/
theorem contains_eq_false_iff {table : Table κ α} {key : κ} :
    table.contains key = false ↔ table.find? key = none := by
  rw [contains, Option.isSome_eq_false_iff, Option.isNone_iff_eq_none]

/-- Pairs with new keys of their own are entered at the end. -/
theorem entries_insertMany {pairs : List (κ × α)} {table : Table κ α}
    (distinct : (table.keys ++ pairs.map Prod.fst).Pairwise fun a b => (a == b) = false) :
    (table.insertMany pairs).entries = table.entries ++ pairs := by
  induction pairs generalizing table with
  | nil => exact (List.append_nil _).symm
  | cons pair rest ih =>
    obtain ⟨key, value⟩ := pair
    have absent : ∀ entry ∈ table.entries, (entry.1 == key) = false := fun entry member =>
      (List.pairwise_append.1 distinct).2.2 entry.1 (List.mem_map_of_mem member) key
        List.mem_cons_self
    have entered : (table.insert key value).entries = table.entries ++ [(key, value)] :=
      putEntry_of_absent absent
    have later : ((table.insert key value).keys ++ rest.map Prod.fst).Pairwise
        fun a b => (a == b) = false := by
      rw [keys, entered, List.map_append, List.append_assoc]
      exact distinct
    have step : table.insertMany ((key, value) :: rest) =
        (table.insert key value).insertMany rest := rfl
    rw [step, ih later, entered, List.append_assoc]
    rfl

/-- A table of pairs with different keys holds just the pairs. -/
theorem entries_ofList {pairs : List (κ × α)}
    (distinct : (pairs.map Prod.fst).Pairwise fun a b => (a == b) = false) :
    (ofList pairs).entries = pairs :=
  entries_insertMany distinct

/-- A table is the table of its entries. -/
@[simp] theorem ofList_entries (table : Table κ α) : ofList table.entries = table :=
  eq_of_entries (entries_ofList table.distinct_keys)

/-- Where only equal keys are the same, a table of pairs holds just the pairs where no key is given
twice. -/
theorem entries_ofList_iff [LawfulBEq κ] (pairs : List (κ × α)) :
    (ofList pairs).entries = pairs ↔ (pairs.map Prod.fst).Nodup := by
  constructor
  · intro all
    have distinct := (ofList pairs).nodup_keys
    rwa [keys, all] at distinct
  · intro distinct
    exact entries_ofList (distinct.imp fun apart => beq_eq_false_iff_ne.2 apart)

/-- Mapping a table maps the values of its entries. -/
theorem entries_map {β : Type w} (f : α → β) (table : Table κ α) :
    (table.map f).entries = table.entries.map fun entry => (entry.1, f entry.2) := rfl

/-- An entry is found under its key. -/
theorem find?_of_mem [EquivBEq κ] {table : Table κ α} {key : κ} {value : α}
    (member : (key, value) ∈ table.entries) : table.find? key = some value :=
  findEntry_of_mem table.distinct_keys member

/-- Entering pairs adds no other keys. -/
theorem mem_keys_insertMany {key : κ} {pairs : List (κ × α)} {table : Table κ α}
    (member : key ∈ (table.insertMany pairs).keys) :
    key ∈ table.keys ∨ key ∈ pairs.map Prod.fst := by
  induction pairs generalizing table with
  | nil => exact .inl member
  | cons pair rest ih =>
    rcases ih member with before | later
    · have entered : (table.insert pair.1 pair.2).keys = _ :=
        keys_putEntry pair.1 pair.2 table.entries
      rw [entered] at before
      split at before
      · exact .inl before
      · rcases List.mem_append.1 before with old | new
        · exact .inl old
        · rw [List.mem_singleton.1 new]
          exact .inr List.mem_cons_self
    · exact .inr (List.mem_cons_of_mem _ later)

/-- What is found after pairs were entered was entered with them or found before. -/
theorem exists_of_find?_insertMany [EquivBEq κ] {key : κ} {value : α} {pairs : List (κ × α)}
    {table : Table κ α} (found : (table.insertMany pairs).find? key = some value) :
    (∃ k, (k, value) ∈ pairs ∧ k == key) ∨ table.find? key = some value := by
  induction pairs generalizing table with
  | nil => exact .inr found
  | cons pair rest ih =>
    rcases ih found with ⟨k, member, same⟩ | before
    · exact .inl ⟨k, List.mem_cons_of_mem _ member, same⟩
    · rw [find?_insert] at before
      split at before
      · rename_i same
        cases before
        exact .inl ⟨pair.1, List.mem_cons_self, same⟩
      · exact .inr before

/-- Entering pairs adds no other values. -/
theorem mem_values_insertMany [EquivBEq κ] {value : α} {pairs : List (κ × α)} {table : Table κ α}
    (member : value ∈ (table.insertMany pairs).values) :
    value ∈ table.values ∨ value ∈ pairs.map Prod.snd := by
  obtain ⟨entry, there, rfl⟩ := List.mem_map.1 member
  rcases exists_of_find?_insertMany (find?_of_mem there) with ⟨k, pair, -⟩ | before
  · exact .inr (List.mem_map.2 ⟨_, pair, rfl⟩)
  · obtain ⟨k, old, -⟩ := exists_of_findEntry before
    exact .inl (List.mem_map.2 ⟨_, old, rfl⟩)

/-- Under a key for which nothing was entered the same is found as before. -/
theorem find?_insertMany_of_absent [EquivBEq κ] {key : κ} {pairs : List (κ × α)} {table : Table κ α}
    (absent : ∀ pair ∈ pairs, (pair.1 == key) = false) :
    (table.insertMany pairs).find? key = table.find? key := by
  induction pairs generalizing table with
  | nil => rfl
  | cons pair rest ih =>
    obtain ⟨other, later⟩ := List.forall_mem_cons.1 absent
    have step : table.insertMany (pair :: rest) =
        (table.insert pair.1 pair.2).insertMany rest := rfl
    rw [step, ih later, find?_insert, other]
    rfl

/-- Pairs with different keys go over what was found before. -/
theorem find?_insertMany [EquivBEq κ] {pairs : List (κ × α)}
    (distinct : (pairs.map Prod.fst).Pairwise fun a b => (a == b) = false) (table : Table κ α)
    (key : κ) :
    (table.insertMany pairs).find? key = (findEntry key pairs).or (table.find? key) := by
  induction pairs generalizing table with
  | nil => rfl
  | cons pair rest ih =>
    obtain ⟨k, value⟩ := pair
    rw [List.map_cons, List.pairwise_cons] at distinct
    have step : table.insertMany ((k, value) :: rest) =
        (table.insert k value).insertMany rest := rfl
    rw [step, ih distinct.2, find?_insert, findEntry]
    by_cases same : k == key
    · have absent : ∀ entry ∈ rest, (entry.1 == key) = false := fun entry member => by
        rw [Bool.eq_false_iff]
        intro again
        have apart := distinct.1 entry.1 (List.mem_map_of_mem member)
        rw [BEq.trans same (BEq.symm again)] at apart
        cases apart
      rw [findEntry_eq_none absent, if_pos same, if_pos same]
      rfl
    · rw [if_neg same, if_neg same]

/-- A table that is set in another one goes over it. -/
theorem find?_update [EquivBEq κ] (table other : Table κ α) (key : κ) :
    (table.update other).find? key = (other.find? key).or (table.find? key) :=
  find?_insertMany other.distinct_keys table key

end Table

end GoBindings
